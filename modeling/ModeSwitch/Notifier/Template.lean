import ModeSwitch.Notification

/-! Placeholders in the arguments of a program.

A placeholder is a name between braces.  A post fills in the id and the texts of its notification,
a withdrawal the id alone; every other brace stays as it is, and text that was filled in is never
looked at again.
-/

namespace ModeSwitch.Template

def opening : Char := '\x7b'

def closing : Char := '\x7d'

/-- The characters before the first closing brace, and those after it. -/
def upToClosing : List Char → Option (List Char × List Char)
  | [] => none
  | c :: rest =>
      if c = closing then some ([], rest)
      else (upToClosing rest).map fun (name, after) => (c :: name, after)

theorem length_of_upToClosing {text name after : List Char}
    (h : upToClosing text = some (name, after))
    : after.length < text.length := by
  induction text generalizing name after with
  | nil => simp [upToClosing] at h
  | cons c rest ih =>
      unfold upToClosing at h
      split at h
      · simp only [Option.some.injEq, Prod.mk.injEq] at h
        simp [h.2]
      · obtain ⟨⟨name, after⟩, hrest, heq⟩ := Option.map_eq_some_iff.mp h
        simp only [Prod.mk.injEq] at heq
        obtain ⟨rfl, rfl⟩ := heq
        exact Nat.lt_succ_of_lt (ih hrest)

/-- Fills in the placeholders of a text.  At an opening brace the name up to the next closing brace
decides: a name with a value is replaced together with its braces, any other brace stays, and the
search goes on right behind it. -/
def fill (value : List Char → Option (List Char)) (text : List Char) : List Char :=
  match text with
  | [] => []
  | c :: rest =>
      if c = opening then
        match h : upToClosing rest with
        | none => c :: rest
        | some (name, after) =>
            have := length_of_upToClosing h
            match value name with
            | some filled => filled ++ fill value after
            | none => c :: fill value rest
      else c :: fill value rest
termination_by text.length
decreasing_by all_goals simp only [List.length_cons]; omega

/-- The values of the names for a withdrawal. -/
def withdrawValue (id : UInt32) (name : List Char) : Option (List Char) :=
  if name = "id".toList then some (toString id.toNat).toList else none

/-- The values of the names for a post. -/
def postValue (notification : Notification) (name : List Char) : Option (List Char) :=
  if name = "id".toList then some (toString notification.id.toNat).toList
  else if name = "title".toList then some notification.title.toList
  else if name = "body".toList then some notification.body.toList
  else if name = "target".toList then some notification.tapTarget.toList
  else none

def forPost (notification : Notification) (argument : String) : String :=
  String.ofList (fill (postValue notification) argument.toList)

def forWithdrawal (id : UInt32) (argument : String) : String :=
  String.ofList (fill (withdrawValue id) argument.toList)

end ModeSwitch.Template
