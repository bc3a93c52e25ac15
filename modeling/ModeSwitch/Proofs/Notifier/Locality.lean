import ModeSwitch.Proofs.Notifier.Substitution

/-! Filling in a template is local.

What a position of a text comes to depends on the placeholders around it alone.  So a text may be cut
wherever no placeholder is cut apart, and its parts filled in by themselves, although the search looks
for a closing brace however far ahead.  A withdrawal, which leaves the texts of a notification open,
fills in what a post does with the placeholders themselves for these texts.
-/

namespace ModeSwitch.Template

/-- A text without a placeholder stays as it is, by induction on the text. -/
theorem substitute_eq_self {rules : List Rule} {text : List Char}
    (absent : ∀ rule ∈ rules, ¬ placeholder rule.name <:+: text)
    : substitute rules text = text := by
  induction text with
  | nil => rfl
  | cons c rest ih =>
      have nowhere : ∀ rule ∈ rules, ¬ rule.StandsAt (c :: rest) 0 :=
        fun rule member stands => absent rule member (List.IsPrefix.isInfix stands)
      rw [substitute_cons nowhere,
        ih fun rule member inside => absent rule member (List.infix_cons inside)]

/-! ## Placeholders that are their own values -/

section Own

variable {value value' : List Char → Option (List Char)}

/-- What holds no opening brace stays as it is, whatever follows. -/
theorem fill_append_of_notMem {front : List Char} (plain : opening ∉ front) (back : List Char)
    : fill value (front ++ back) = front ++ fill value back := by
  induction front with
  | nil => rfl
  | cons c front ih =>
      have first : c ≠ opening := fun same => plain (same ▸ List.mem_cons_self)
      rw [List.cons_append, fill, if_neg first, ih (mt (List.mem_cons_of_mem c) plain),
        List.cons_append]

/-- The placeholder of a name without a value stays. -/
theorem fill_placeholder_of_none {name : List Char} (plain : opening ∉ name)
    (closed : closing ∉ name) (unknown : value name = none) (after : List Char)
    : fill value (placeholder name ++ after) = placeholder name ++ fill value after := by
  have stays : opening ∉ name ++ [closing] := by
    rw [List.mem_append, List.mem_singleton, not_or]
    exact ⟨plain, by decide⟩
  have first : fill value (opening :: (name ++ [closing] ++ after))
      = opening :: fill value (name ++ [closing] ++ after) := by
    refine fill_cons fun other behind closed' same => ?_
    have stands : (Rule.mk other []).StandsAt (placeholder name ++ after) 0 :=
      ⟨behind, by simpa [placeholder] using same.symm⟩
    obtain rfl := (Rule.standsAt_front_iff closed' closed after).mp stands
    exact unknown
  simpa [placeholder] using first.trans (congrArg _ (fill_append_of_notMem stays after))

/-- A name whose value is its own placeholder may as well have none, by induction on the length of
the text. -/
theorem fill_of_own_values
    (own
      : ∀ name,
          value' name = value name
          ∨ opening ∉ name ∧ value name = none ∧ value' name = some (placeholder name))
    (text : List Char)
    : fill value' text = fill value text := by
  induction length : text.length using Nat.strong_induction_on generalizing text with
  | _ n ih =>
      -- Unless a placeholder with a value stands in front, both copy the first character.
      by_cases front : ∃ name after filled,
          closing ∉ name ∧ text = placeholder name ++ after ∧ value' name = some filled
      · obtain ⟨name, after, filled, closed, rfl, known⟩ := front
        have shorter : after.length < n := by
          rw [← length, List.length_append]
          simp [placeholder]
        rw [fill_placeholder closed known, ih after.length shorter after rfl]
        rcases own name with same | ⟨plain, unknown, itself⟩
        · rw [fill_placeholder closed (same.symm.trans known)]
        · -- Without a value the placeholder is left standing, which is the value that it has otherwise.
          rw [fill_placeholder_of_none plain closed unknown]
          rw [Option.some.inj (known.symm.trans itself)]
      · cases text with
        | nil => simp [fill]
        | cons c rest =>
            have unknown' (name after : List Char) (closed : closing ∉ name)
                (same : c :: rest = placeholder name ++ after)
                : value' name = none := by
              refine Option.eq_none_iff_forall_ne_some.mpr fun filled known => ?_
              exact front ⟨name, after, filled, closed, same, known⟩
            have unknown (name after : List Char) (closed : closing ∉ name)
                (same : c :: rest = placeholder name ++ after)
                : value name = none := by
              rcases own name with equal | ⟨-, missing, -⟩
              · rw [← equal, unknown' name after closed same]
              · exact missing
            have shorter : rest.length < n := by simp [← length]
            rw [fill_cons unknown', fill_cons unknown, ih rest.length shorter rest rfl]

end Own

/-! ## The arguments of a service -/

/-- An argument filled in under an id: for a post of the texts of a notification, or else for a
withdrawal. -/
def expand (id : UInt32) : Option Notification → String → String
  | none => forWithdrawal id
  | some notification => forPost { notification with id := id }

/-- The rules that an argument is filled in with. -/
def rulesFor (id : UInt32) : Option Notification → List Rule
  | none => withdrawalRules id
  | some notification => postRules { notification with id := id }

/-- Filling in for a withdrawal and for a post is substitution by different rules. -/
theorem expand_eq_substituteIn (id : UInt32) (notification : Option Notification)
    : expand id notification = substituteIn (rulesFor id notification) := by
  cases notification with
  | none => exact forWithdrawal_eq_substituteIn id
  | some notification => exact forPost_eq_substituteIn _

/-- The notification whose texts are the placeholders of these texts. -/
def unfilled (id : UInt32) : Notification :=
  ⟨id, "\x7btitle\x7d", "\x7bbody\x7d", "\x7btarget\x7d"⟩

/-- A withdrawal fills in like a post of a notification that puts every other placeholder back. -/
theorem forWithdrawal_eq_forPost_unfilled (id : UInt32)
    : forWithdrawal id = forPost (unfilled id) := by
  funext argument
  refine congrArg String.ofList (fill_of_own_values (fun name => ?_) argument.toList).symm
  unfold postValue withdrawValue
  split_ifs with id title body target
  · exact .inl rfl
  · subst title
    exact .inr ⟨by decide, rfl, by simp [unfilled, placeholder, opening, closing]⟩
  · subst body
    exact .inr ⟨by decide, rfl, by simp [unfilled, placeholder, opening, closing]⟩
  · subst target
    exact .inr ⟨by decide, rfl, by simp [unfilled, placeholder, opening, closing]⟩
  · exact .inl rfl

/-- An argument may be cut wherever no placeholder with a value is cut apart, and its parts are filled
in by themselves.  A withdrawal fills in what a post of the unfilled texts does.  An argument without a
placeholder that has a value stays as it is. -/
theorem expansion_is_local
    : (∀ id notification (front back : String),
        (∀ rule ∈ rulesFor id notification,
          ¬ rule.Covers (front ++ back).toList front.toList.length)
        → expand id notification (front ++ back)
          = expand id notification front ++ expand id notification back)
      ∧ (∀ id argument,
          expand id none argument
          = expand id (some ⟨id, "\x7btitle\x7d", "\x7bbody\x7d", "\x7btarget\x7d"⟩) argument)
      ∧ ∀ id notification (argument : String),
          (∀ rule ∈ rulesFor id notification, ¬ placeholder rule.name <:+: argument.toList)
          → expand id notification argument = argument := by
  refine ⟨fun id notification front back uncut => ?_, fun id argument => ?_,
    fun id notification argument absent => ?_⟩
  · rw [String.toList_append] at uncut
    simp only [expand_eq_substituteIn, substituteIn, String.toList_append, substitute_append uncut,
      String.ofList_append]
  · exact congrFun (forWithdrawal_eq_forPost_unfilled id) argument
  · rw [expand_eq_substituteIn, substituteIn, substitute_eq_self absent, String.ofList_toList]

/-- A withdrawal knows no title, so the placeholder of one may be cut there, and its second half stays
as it is. -/
theorem title_may_be_cut_for_withdrawal
    : let front := "\x7bid\x7d: \x7bti"
      let back := "tle\x7d"
      (∀ rule ∈ rulesFor 2 none, ¬ rule.Covers (front ++ back).toList front.toList.length)
      ∧ (∀ rule ∈ rulesFor 2 none, ¬ placeholder rule.name <:+: back.toList)
      ∧ expand 2 none (front ++ back) = expand 2 none front ++ back
      ∧ expand 2 none (front ++ back)
        = expand 2 (some ⟨2, "\x7btitle\x7d", "\x7bbody\x7d", "\x7btarget\x7d"⟩)
            (front ++ back) := by
  intro front back
  obtain ⟨cut, unfilled, stays⟩ := expansion_is_local
  have uncut : ∀ rule ∈ rulesFor 2 none,
      ¬ rule.Covers (front ++ back).toList front.toList.length := by
    decide
  have absent : ∀ rule ∈ rulesFor 2 none, ¬ placeholder rule.name <:+: back.toList := by
    decide
  refine ⟨uncut, absent, ?_, unfilled 2 (front ++ back)⟩
  rw [cut 2 none front back uncut, stays 2 none back absent]

end ModeSwitch.Template
