import Mathlib
import ModeSwitch.Notifier.Services

/-! Filling in a template is simultaneous substitution.

The search goes from brace to brace, but what comes out can be told position by position from the
argument alone: the value of a placeholder where one begins, nothing behind its opening brace, and
every other character as it is.  Two placeholders never overlap, so no position is claimed twice.
-/

namespace ModeSwitch

namespace Template

/-! ## Filling in at the front of a text -/

def placeholder (name : List Char) : List Char :=
  opening :: name ++ [closing]

theorem upToClosing_append {name : List Char} (closed : closing ∉ name) (after : List Char)
    : upToClosing (name ++ closing :: after) = some (name, after) := by
  induction name with
  | nil => simp [upToClosing]
  | cons c rest ih =>
      obtain ⟨apart, closed⟩ := not_or.mp (mt List.mem_cons.mpr closed)
      have other : c ≠ closing := fun same => apart same.symm
      simp [upToClosing, other, ih closed]

/-- What is found before a closing brace is all of the text up to it. -/
theorem eq_append_of_upToClosing {text name after : List Char}
    (found : upToClosing text = some (name, after))
    : closing ∉ name ∧ text = name ++ closing :: after := by
  induction text generalizing name after with
  | nil => simp [upToClosing] at found
  | cons c rest ih =>
      unfold upToClosing at found
      split at found
      · rename_i same
        obtain ⟨rfl, rfl⟩ := Prod.mk.inj (Option.some.inj found)
        exact ⟨List.not_mem_nil, by rw [same]; rfl⟩
      · rename_i other
        obtain ⟨⟨inner, behind⟩, inside, same⟩ := Option.map_eq_some_iff.mp found
        obtain ⟨rfl, rfl⟩ := Prod.mk.inj same
        obtain ⟨closed, rfl⟩ := ih inside
        refine ⟨?_, rfl⟩
        intro member
        rcases List.mem_cons.mp member with first | later
        · exact other first.symm
        · exact closed later

theorem notMem_of_upToClosing {text : List Char} (missing : upToClosing text = none)
    : closing ∉ text := by
  intro member
  obtain ⟨name, after, rfl, closed⟩ := List.eq_append_cons_of_mem member
  cases (upToClosing_append closed after).symm.trans missing

variable {value : List Char → Option (List Char)}

/-- Without a closing brace there is nothing to fill in. -/
theorem fill_of_notMem {text : List Char} (unclosed : closing ∉ text) : fill value text = text := by
  induction text with
  | nil => simp [fill]
  | cons c rest ih =>
      have unclosed := fun member => unclosed (List.mem_cons_of_mem c member)
      rw [fill]
      split
      · split
        · rfl
        · rename_i name after found
          obtain ⟨-, rfl⟩ := eq_append_of_upToClosing found
          exact (unclosed (by simp)).elim
      · rw [ih unclosed]

/-- A placeholder with a value is replaced, and the search goes on behind it. -/
theorem fill_placeholder {name filled : List Char} (closed : closing ∉ name)
    (known : value name = some filled) (after : List Char)
    : fill value (placeholder name ++ after) = filled ++ fill value after := by
  have found : upToClosing (name ++ [closing] ++ after) = some (name, after) := by
    simpa using upToClosing_append closed after
  rw [placeholder, List.cons_append, List.cons_append, fill, if_pos rfl]
  split
  · rename_i missing
    cases found.symm.trans missing
  · rename_i name' after' found'
    obtain ⟨rfl, rfl⟩ := Prod.mk.inj (Option.some.inj (found.symm.trans found'))
    simp only [known]

/-- A character that begins no placeholder with a value stays, and the search goes on behind it. -/
theorem fill_cons {c : Char} {rest : List Char}
    (unknown
      : ∀ name after, closing ∉ name → c :: rest = placeholder name ++ after → value name = none)
    : fill value (c :: rest) = c :: fill value rest := by
  rw [fill]
  split
  · rename_i brace
    split
    · rename_i missing
      rw [fill_of_notMem (notMem_of_upToClosing missing)]
    · rename_i name after found
      obtain ⟨closed, rfl⟩ := eq_append_of_upToClosing found
      have none := unknown name after closed (by simp [placeholder, brace])
      simp only [none]
  · rfl

/-! ## Substitution at all positions at once -/

/-- A name, with the text that is put in the place of its placeholder. -/
structure Rule where
  name : List Char
  value : List Char

namespace Rule

def StandsAt (rule : Rule) (text : List Char) (position : Nat) : Prop :=
  placeholder rule.name <+: text.drop position

instance (rule : Rule) (text : List Char) (position : Nat)
    : Decidable (rule.StandsAt text position) :=
  inferInstanceAs (Decidable (_ <+: _))

/-- Does the placeholder stand around a position, which is not its first one? -/
def Covers (rule : Rule) (text : List Char) (position : Nat) : Prop :=
  ∃ first < position,
    rule.StandsAt text first ∧ position < first + (placeholder rule.name).length

instance (rule : Rule) (text : List Char) (position : Nat)
    : Decidable (rule.Covers text position) :=
  inferInstanceAs (Decidable (∃ first, first < position ∧ _))

end Rule

/-- What a position of a text comes to: the value of the placeholder that stands there, nothing
inside of a placeholder, and otherwise the character itself. -/
def contribution (rules : List Rule) (text : List Char) (position : Nat) : List Char :=
  match rules.find? (·.StandsAt text position) with
  | some rule => rule.value
  | none => if ∃ rule ∈ rules, rule.Covers text position then [] else text[position]?.toList

/-- The text with every placeholder replaced at once. -/
def substitute (rules : List Rule) (text : List Char) : List Char :=
  (List.range text.length).flatMap (contribution rules text)

/-- The names hold no braces, so no placeholder begins inside of another. -/
def Plain (rules : List Rule) : Prop :=
  ∀ rule ∈ rules, opening ∉ rule.name ∧ closing ∉ rule.name

namespace Rule

variable {rule other : Rule} {text : List Char}

theorem StandsAt.getElem? {position : Nat} (stands : rule.StandsAt text position)
    : text[position]? = some opening := by
  obtain ⟨after, same⟩ := stands
  have first : (text.drop position)[0]? = some opening := by
    rw [← same]
    rfl
  simpa using first

/-- Only one placeholder can stand at the front of a text. -/
theorem standsAt_front_iff {name : List Char} (closed : closing ∉ rule.name)
    (closed' : closing ∉ name) (after : List Char)
    : rule.StandsAt (placeholder name ++ after) 0 ↔ rule.name = name := by
  constructor
  · rintro ⟨behind, same⟩
    have tails : rule.name ++ closing :: behind = name ++ closing :: after := by
      simpa [placeholder] using same
    have found := upToClosing_append closed behind
    rw [tails, upToClosing_append closed' after] at found
    exact (Prod.mk.inj (Option.some.inj found)).1.symm
  · rintro rfl
    exact ⟨after, rfl⟩

/-- Whether a placeholder stands at a position does not depend on the text before it. -/
theorem standsAt_append (front : List Char) (position : Nat)
    : rule.StandsAt (front ++ text) (front.length + position) ↔ rule.StandsAt text position := by
  unfold StandsAt
  rw [List.drop_length_add_append]

end Rule

/-! ## Cutting a text -/

section Cut

variable {rules : List Rule} {front back : List Char}

/-- A placeholder that ends before the text is cut does not reach behind the cut. -/
theorem Rule.standsAt_append_left {rule : Rule} {position : Nat}
    (fits : position + (placeholder rule.name).length ≤ front.length)
    : rule.StandsAt (front ++ back) position ↔ rule.StandsAt front position := by
  unfold StandsAt
  rw [List.drop_append_of_le_length (by omega)]
  exact List.isPrefix_append_of_length (by rw [List.length_drop]; omega)

variable (uncut : ∀ rule ∈ rules, ¬ rule.Covers (front ++ back) front.length)

include uncut

/-- A placeholder that begins before the cut ends before it. -/
theorem fits_of_standsAt {rule : Rule} (member : rule ∈ rules) {position : Nat}
    (before : position < front.length) (stands : rule.StandsAt (front ++ back) position)
    : position + (placeholder rule.name).length ≤ front.length := by
  by_contra reaches
  exact uncut rule member ⟨position, before, stands, by omega⟩

theorem standsAt_front_part_iff {rule : Rule} (member : rule ∈ rules) {position : Nat}
    (before : position < front.length)
    : rule.StandsAt (front ++ back) position ↔ rule.StandsAt front position := by
  constructor
  · intro stands
    exact (Rule.standsAt_append_left (fits_of_standsAt uncut member before stands)).mp stands
  · intro stands
    unfold Rule.StandsAt
    rw [List.drop_append_of_le_length before.le]
    exact stands.trans (List.prefix_append _ _)

/-- Up to the cut, every position contributes the same as in the first part alone. -/
theorem contribution_front_part {position : Nat} (before : position < front.length)
    : contribution rules (front ++ back) position = contribution rules front position := by
  have stands {rule : Rule} (member : rule ∈ rules) {position : Nat}
      (before : position < front.length) := standsAt_front_part_iff uncut member before
  have found : rules.find? (·.StandsAt (front ++ back) position)
      = rules.find? (·.StandsAt front position) :=
    List.find?_congr fun rule member => by simp only [stands member before]
  have covered : (∃ rule ∈ rules, rule.Covers (front ++ back) position)
      ↔ ∃ rule ∈ rules, rule.Covers front position := by
    refine exists_congr fun rule => and_congr_right fun member => ?_
    refine exists_congr fun first => and_congr_right fun earlier => ?_
    rw [stands member (by omega)]
  simp only [contribution, found, covered, List.getElem?_append_left before]

/-- Behind the cut, every position contributes the same as in the second part alone. -/
theorem contribution_back_part (position : Nat)
    : contribution rules (front ++ back) (front.length + position)
      = contribution rules back position := by
  have covered : (∃ rule ∈ rules, rule.Covers (front ++ back) (front.length + position))
      ↔ ∃ rule ∈ rules, rule.Covers back position := by
    refine exists_congr fun rule => and_congr_right fun member => ?_
    constructor
    · rintro ⟨first, earlier, stands, inside⟩
      rcases Nat.lt_or_ge first front.length with before | behind
      · have fits := fits_of_standsAt uncut member before stands
        omega
      · obtain ⟨first, rfl⟩ := Nat.exists_eq_add_of_le behind
        exact ⟨first, by omega, (Rule.standsAt_append _ first).mp stands, by omega⟩
    · rintro ⟨first, earlier, stands, inside⟩
      exact ⟨front.length + first, by omega, (Rule.standsAt_append _ first).mpr stands, by omega⟩
  have character : (front ++ back)[front.length + position]? = back[position]? := by
    rw [List.getElem?_append_right (Nat.le_add_right _ _), Nat.add_sub_cancel_left]
  simp only [contribution, Rule.standsAt_append, covered, character]

/-- The parts of a text whose cut goes through no placeholder are filled in by themselves. -/
theorem substitute_append
    : substitute rules (front ++ back) = substitute rules front ++ substitute rules back := by
  unfold substitute
  rw [List.length_append, List.range_add, List.flatMap_append, List.flatMap_map]
  congr 1
  · rw [List.flatMap_congr]
    intro position inside
    exact contribution_front_part uncut (List.mem_range.mp inside)
  · simp only [contribution_back_part uncut]

end Cut

/-! ## Substitution at the front of a text -/

section Front

variable {rules : List Rule}

/-- A character at which no placeholder begins stays, and the rest comes to the same by itself. -/
theorem substitute_cons {c : Char} {rest : List Char}
    (nowhere : ∀ rule ∈ rules, ¬ rule.StandsAt (c :: rest) 0)
    : substitute rules (c :: rest) = c :: substitute rules rest := by
  have uncut : ∀ rule ∈ rules, ¬ rule.Covers ([c] ++ rest) [c].length := by
    rintro rule member ⟨first, before, stands, -⟩
    obtain rfl : first = 0 := Nat.lt_one_iff.mp before
    exact nowhere rule member stands
  have alone : substitute rules [c] = [c] := by
    have missing : rules.find? (·.StandsAt [c] 0) = none := by
      rw [List.find?_eq_none]
      intro rule member stands
      exact nowhere rule member
        ((of_decide_eq_true stands).trans (List.prefix_append [c] rest))
    simp [substitute, contribution, missing, Rule.Covers]
  calc substitute rules (c :: rest)
      = substitute rules [c] ++ substitute rules rest := substitute_append uncut
    _ = c :: substitute rules rest := by rw [alone, List.singleton_append]

variable {rule : Rule} (plain : Plain rules) (member : rule ∈ rules) (after : List Char)

include plain member

theorem front_iff {other : Rule} (inside : other ∈ rules)
    : other.StandsAt (placeholder rule.name ++ after) 0 ↔ other.name = rule.name :=
  Rule.standsAt_front_iff (plain other inside).2 (plain rule member).2 after

/-- No placeholder begins behind the opening brace of another, since its name holds none. -/
theorem not_standsAt_inside {position : Nat} (inside : position < rule.name.length + 1)
    (other : Rule)
    : ¬ other.StandsAt (placeholder rule.name ++ after) (position + 1) := by
  intro stands
  have brace := stands.getElem?
  rw [List.getElem?_append_left (by simp [placeholder]; omega)] at brace
  have here : (rule.name ++ [closing])[position]? = some opening := by
    simpa [placeholder] using brace
  rcases List.mem_append.mp (List.mem_of_getElem? here) with named | last
  · exact (plain rule member).1 named
  · cases List.mem_singleton.mp last

/-- The end of a placeholder at the front goes through no placeholder. -/
theorem not_covers_end {other : Rule} (inside : other ∈ rules)
    : ¬ other.Covers (placeholder rule.name ++ after) (placeholder rule.name).length := by
  rintro ⟨first, before, stands, reaches⟩
  cases first with
  | zero =>
      have same := (front_iff plain member after inside).mp stands
      rw [same] at reaches
      omega
  | succ first =>
      have early : first < rule.name.length + 1 := by simpa [placeholder] using before
      exact not_standsAt_inside plain member after early other stands

/-- Inside a placeholder no position contributes anything. -/
theorem contribution_inside {position : Nat} (inside : position < rule.name.length + 1)
    : contribution rules (placeholder rule.name) (position + 1) = [] := by
  have nowhere (other : Rule) : ¬ other.StandsAt (placeholder rule.name) (position + 1) := by
    simpa using not_standsAt_inside plain member [] inside other
  have missing : rules.find? (·.StandsAt (placeholder rule.name) (position + 1)) = none := by
    simpa [List.find?_eq_none] using fun other _ => nowhere other
  have covered : ∃ rule' ∈ rules, rule'.Covers (placeholder rule.name) (position + 1) :=
    ⟨rule, member, 0, by omega, List.prefix_rfl, by simp [placeholder]; omega⟩
  simp only [contribution, missing, covered, if_true]

/-- A placeholder at the front comes to its value, and the positions behind it come to the same in
the rest alone. -/
theorem substitute_placeholder (first : rules.find? (·.name = rule.name) = some rule)
    : substitute rules (placeholder rule.name ++ after) = rule.value ++ substitute rules after := by
  have front : contribution rules (placeholder rule.name) 0 = rule.value := by
    have found : rules.find? (·.StandsAt (placeholder rule.name) 0) = some rule := by
      rw [← first]
      exact List.find?_congr fun other inside => by
        simpa using front_iff plain member [] inside
    simp [contribution, found]
  have inner : ((List.range (rule.name.length + 1)).map Nat.succ).flatMap
      (contribution rules (placeholder rule.name)) = [] := by
    rw [List.flatMap_map, List.flatMap_eq_nil_iff]
    intro position inside
    exact contribution_inside plain member (List.mem_range.mp inside)
  have length : (placeholder rule.name).length = rule.name.length + 1 + 1 := by simp [placeholder]
  have alone : substitute rules (placeholder rule.name) = rule.value := by
    rw [substitute, length, List.range_succ_eq_map, List.flatMap_cons, front, inner,
      List.append_nil]
  rw [substitute_append fun other inside => not_covers_end plain member after inside, alone]

end Front

/-- Filling in is substitution with the rules that the names are looked up in, by induction on the
length of the text: both take off a placeholder at the front, or else one character. -/
theorem fill_eq_substitute {rules : List Rule} (plain : Plain rules)
    (lookup : ∀ name, value name = (rules.find? (·.name = name)).map (·.value)) (text : List Char)
    : fill value text = substitute rules text := by
  induction length : text.length using Nat.strong_induction_on generalizing text with
  | _ n ih =>
      by_cases front : ∃ rule ∈ rules, rule.StandsAt text 0
      · obtain ⟨rule, member, after, rfl⟩ := front
        -- Of several rules for one name the first one counts on both sides.
        obtain ⟨first, found⟩ : ∃ first, rules.find? (·.name = rule.name) = some first := by
          refine Option.isSome_iff_exists.mp (List.find?_isSome.mpr ⟨rule, member, ?_⟩)
          exact decide_eq_true rfl
        have inside := List.mem_of_find?_eq_some found
        have same : first.name = rule.name := by simpa using List.find?_some found
        have shorter : after.length < n := by
          rw [← length, List.length_append]
          simp [placeholder]
        rw [← same] at found ⊢
        rw [fill_placeholder (plain first inside).2 (by rw [lookup, found]; rfl),
          substitute_placeholder plain inside after found, ih after.length shorter after rfl]
      · cases text with
        | nil => simp [fill, substitute]
        | cons c rest =>
            have nowhere : ∀ rule ∈ rules, ¬ rule.StandsAt (c :: rest) 0 := by
              intro rule member stands
              exact front ⟨rule, member, stands⟩
            have unknown (name after : List Char) (_ : closing ∉ name)
                (same : c :: rest = placeholder name ++ after)
                : value name = none := by
              rw [lookup, Option.map_eq_none_iff, List.find?_eq_none]
              rintro rule member named
              obtain rfl := of_decide_eq_true named
              exact nowhere rule member ⟨after, same.symm⟩
            have shorter : rest.length < n := by simp [← length]
            rw [fill_cons unknown, substitute_cons nowhere, ih rest.length shorter rest rfl]

/-! ## The arguments of a service -/

def withdrawalRules (id : UInt32) : List Rule :=
  [⟨"id".toList, (toString id.toNat).toList⟩]

/-- What a post puts in: the id, and the texts of the notification. -/
def postRules (notification : Notification) : List Rule :=
  [⟨"id".toList, (toString notification.id.toNat).toList⟩,
    ⟨"title".toList, notification.title.toList⟩,
    ⟨"body".toList, notification.body.toList⟩,
    ⟨"target".toList, notification.tapTarget.toList⟩]

theorem plain_withdrawalRules (id : UInt32) : Plain (withdrawalRules id) := by
  simp [Plain, withdrawalRules, opening, closing]

theorem plain_postRules (notification : Notification) : Plain (postRules notification) := by
  simp [Plain, postRules, opening, closing]

def substituteIn (rules : List Rule) (argument : String) : String :=
  String.ofList (substitute rules argument.toList)

theorem find?_named_cons (rule : Rule) (rest : List Rule) (name : List Char)
    : ((rule :: rest).find? (·.name = name)).map (·.value)
      = if name = rule.name then some rule.value
        else (rest.find? (·.name = name)).map (·.value) := by
  by_cases same : name = rule.name
  · simp [same]
  · have other : rule.name ≠ name := fun h => same h.symm
    simp [same, other]

/-- An argument of the program that withdraws is substituted by the id alone. -/
theorem forWithdrawal_eq_substituteIn (id : UInt32)
    : forWithdrawal id = substituteIn (withdrawalRules id) := by
  have lookup (name : List Char) : withdrawValue id name
      = ((withdrawalRules id).find? (·.name = name)).map (·.value) := by
    simp only [withdrawValue, withdrawalRules, find?_named_cons]
    rfl
  funext argument
  exact congrArg String.ofList
    (fill_eq_substitute (plain_withdrawalRules id) lookup argument.toList)

/-- An argument of the program that posts is substituted by the id and the texts. -/
theorem forPost_eq_substituteIn (notification : Notification)
    : forPost notification = substituteIn (postRules notification) := by
  have lookup (name : List Char) : postValue notification name
      = ((postRules notification).find? (·.name = name)).map (·.value) := by
    simp only [postValue, postRules, find?_named_cons]
    rfl
  funext argument
  exact congrArg String.ofList
    (fill_eq_substitute (plain_postRules notification) lookup argument.toList)

/-- Rules for the same names come to the same at a position if the ones that stand there agree. -/
theorem contribution_congr {rules rules' : List Rule} {text : List Char} {position : Nat}
    (agree
      : List.Forall₂
          (fun rule rule' =>
            rule.name = rule'.name ∧ (rule.StandsAt text position → rule.value = rule'.value))
          rules rules')
    : contribution rules text position = contribution rules' text position := by
  have covered : (∃ rule ∈ rules, rule.Covers text position)
      ↔ ∃ rule ∈ rules', rule.Covers text position := by
    induction agree with
    | nil => simp
    | @cons rule rule' _ _ same _ ih =>
        have here : rule.Covers text position ↔ rule'.Covers text position := by
          simp only [Rule.Covers, Rule.StandsAt, same.1]
        simp only [List.exists_mem_cons_iff, here, ih]
  have found : (rules.find? (·.StandsAt text position)).map (·.value)
      = (rules'.find? (·.StandsAt text position)).map (·.value) := by
    clear covered
    induction agree with
    | nil => rfl
    | @cons rule rule' _ _ same _ ih =>
        have here : rule.StandsAt text position ↔ rule'.StandsAt text position := by
          simp only [Rule.StandsAt, same.1]
        by_cases stands : rule.StandsAt text position
        · simp [stands, here.mp stands, same.2 stands]
        · simpa [stands, mt here.mpr stands] using ih
  have eq_getD (rules : List Rule) : contribution rules text position
      = ((rules.find? (·.StandsAt text position)).map (·.value)).getD
          (if ∃ rule ∈ rules, rule.Covers text position then [] else text[position]?.toList) := by
    cases first : rules.find? (·.StandsAt text position) <;> simp [contribution, first]
  simp only [eq_getD, found, covered]

end Template

namespace CommandService

open Template

section Service

variable (commands : CommandService) {ν : Type}
  (run : String → List String → ν → Reaction ν (Except NotifyError Unit))

/-- A post runs the program once, with all placeholders in its arguments replaced. -/
theorem serviceBy_post (notification : Notification)
    : (commands.serviceBy run).post notification
      = run commands.postCommand
          (commands.postArgs.map (substituteIn (postRules notification))) := by
  simp only [serviceBy, forPost_eq_substituteIn]

/-- A withdrawal runs the program once, with the id in its arguments. -/
theorem serviceBy_withdraw (id : UInt32)
    : (commands.serviceBy run).withdraw id
      = run commands.withdrawCommand
          (commands.withdrawArgs.map (substituteIn (withdrawalRules id))) := by
  simp only [serviceBy, forWithdrawal_eq_substituteIn]

end Service

/-- Every argument of a service is filled in by itself, and filling in replaces all placeholders at
once, however programs are run; on a host they are run from its files.  A text of a notification
reaches only the positions at which its own placeholder stands. -/
theorem arguments_are_substituted (commands : CommandService)
    : (∀ notification argument,
        forPost notification argument = substituteIn (postRules notification) argument)
      ∧ (∀ id argument, forWithdrawal id argument = substituteIn (withdrawalRules id) argument)
      ∧ (∀ {ν : Type} (run : String → List String → ν → Reaction ν (Except NotifyError Unit)),
          (∀ notification,
            (commands.serviceBy run).post notification
              = run commands.postCommand
                  (commands.postArgs.map (substituteIn (postRules notification))))
          ∧ ∀ id,
              (commands.serviceBy run).withdraw id
                = run commands.withdrawCommand
                    (commands.withdrawArgs.map (substituteIn (withdrawalRules id))))
      ∧ (∀ environment notification tree,
          (commands.service environment).post notification tree
            = runProgram environment commands.postCommand
                (commands.postArgs.map (substituteIn (postRules notification))) tree)
      ∧ (∀ environment id tree,
          (commands.service environment).withdraw id tree
            = runProgram environment commands.withdrawCommand
                (commands.withdrawArgs.map (substituteIn (withdrawalRules id))) tree)
      ∧ ∀ (first second : Notification) (text : List Char) (position : Nat),
          first.id = second.id
          → (placeholder "title".toList <+: text.drop position → first.title = second.title)
          → (placeholder "body".toList <+: text.drop position → first.body = second.body)
          → (placeholder "target".toList <+: text.drop position
            → first.tapTarget = second.tapTarget)
          → contribution (postRules first) text position
            = contribution (postRules second) text position := by
  refine ⟨fun notification argument => congrFun (forPost_eq_substituteIn notification) argument,
    fun id argument => congrFun (forWithdrawal_eq_substituteIn id) argument,
    fun run => ⟨serviceBy_post commands run, serviceBy_withdraw commands run⟩, ?_, ?_, ?_⟩
  · intro environment notification tree
    exact congrFun (serviceBy_post commands (runProgram environment) notification) tree
  · intro environment id tree
    exact congrFun (serviceBy_withdraw commands (runProgram environment) id) tree
  · intro first second text position id title body target
    refine contribution_congr (.cons ⟨rfl, fun _ => ?_⟩ (.cons ⟨rfl, fun stands => ?_⟩
      (.cons ⟨rfl, fun stands => ?_⟩ (.cons ⟨rfl, fun stands => ?_⟩ .nil))))
    · rw [id]
    · rw [title stands]
    · rw [body stands]
    · rw [target stands]

/-- Braces in the texts of a notification, around a placeholder, and without an end all stay; the
title does not matter where the body is put in. -/
theorem notice_arguments_are_substituted
    : let notice : Notification :=
        ⟨2, "Mode \x7bbody\x7d at \x7btarget\x7d", "\x7bid\x7d", "settings"⟩
      let untitled : Notification := { notice with title := "" }
      let both := "\x7btitle\x7d|\x7bbody\x7d"
      let commands : CommandService :=
        ⟨"notify", [both, "\x7b\x7bid\x7d\x7d", "id=\x7bid\x7d \x7bopen"], "cancel",
          ["\x7bid\x7d", "\x7btitle\x7d"]⟩
      let record (program : String) (arguments : List String) (runs : List (List String))
          : Reaction (List (List String)) (Except NotifyError Unit) :=
        ⟨some (.ok ()), [], runs ++ [program :: arguments]⟩
      ((commands.serviceBy record).post notice []).state
          = [["notify", "Mode \x7bbody\x7d at \x7btarget\x7d|\x7bid\x7d", "\x7b2\x7d",
            "id=2 \x7bopen"]]
      ∧ ((commands.serviceBy record).withdraw 2 []).state = [["cancel", "2", "\x7btitle\x7d"]]
      ∧ (∀ environment tree,
          (commands.service environment).post notice tree
            = runProgram environment "notify"
                ["Mode \x7bbody\x7d at \x7btarget\x7d|\x7bid\x7d", "\x7b2\x7d",
                  "id=2 \x7bopen"] tree)
      ∧ contribution (postRules notice) both.toList 8
        = contribution (postRules untitled) both.toList 8 := by
  intro notice untitled both commands record
  have posted : commands.postArgs.map (substituteIn (postRules notice))
      = ["Mode \x7bbody\x7d at \x7btarget\x7d|\x7bid\x7d", "\x7b2\x7d",
        "id=2 \x7bopen"] := by
    decide
  have withdrawn : commands.withdrawArgs.map (substituteIn (withdrawalRules 2))
      = ["2", "\x7btitle\x7d"] := by
    decide
  obtain ⟨-, -, anyhow, onHost, -, locality⟩ := arguments_are_substituted commands
  refine ⟨?_, ?_, ?_, ?_⟩
  · rw [(anyhow record).1 notice, posted]
    rfl
  · rw [(anyhow record).2 2, withdrawn]
    rfl
  · intro environment tree
    rw [onHost environment notice tree, posted]
  · have elsewhere : ¬ placeholder "title".toList <+: both.toList.drop 8 := by decide
    exact locality notice untitled both.toList 8 rfl (fun stands => (elsewhere stands).elim)
      (fun _ => rfl) (fun _ => rfl)

end CommandService

end ModeSwitch
