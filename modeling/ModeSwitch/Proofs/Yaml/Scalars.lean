import ModeSwitch.Proofs.Yaml.Steps

/-! Scalars as they are written and read.

A number is read back from its decimal digits, and a text from any scalar that spells it.  A scalar
that is not tagged says nothing but what it spells.
-/

namespace ModeSwitch.Yaml

section Numerals

variable {n : Nat}

theorem digitValue?_digitChar (small : n < 10) : digitValue? 10 n.digitChar = some n := by
  have each : ∀ d < 10, digitValue? 10 (Nat.digitChar d) = some d := by decide
  exact each n small

/-- The digits of a number are read back as the number, by induction on how many there are. -/
theorem numeral?_toDigits (n : Nat) : numeral? 10 (Nat.toDigits 10 n) = some n := by
  rw [numeral?, if_neg Nat.toDigits_ne_nil]
  induction n using Nat.strongRecOn with
  | ind n ih =>
      by_cases small : n < 10
      · simp [Nat.toDigits_of_lt_base small, digitValue?_digitChar small]
      · have before := ih (n / 10) (by omega)
        have last := digitValue?_digitChar (Nat.mod_lt n (by decide : 0 < 10))
        rw [Nat.toDigits_of_base_le (by decide) (by omega), List.foldlM_append, before]
        simp only [Option.bind_eq_bind, Option.bind_some, List.foldlM_cons, last, Option.map_some,
          List.foldlM_nil, Option.pure_def, Option.some.injEq]
        omega

theorem head?_toDigits (positive : 0 < n) : (Nat.toDigits 10 n).head? ≠ some '0' := by
  induction n using Nat.strongRecOn with
  | ind n ih =>
      by_cases small : n < 10
      · have each : ∀ d < 10, 0 < d → Nat.digitChar d ≠ '0' := by decide
        simpa [Nat.toDigits_of_lt_base small] using each n small positive
      · have before := ih (n / 10) (by omega) (by omega)
        rw [Nat.toDigits_of_base_le (by decide) (by omega)]
        cases digits : Nat.toDigits 10 (n / 10) with
        | nil => exact absurd digits Nat.toDigits_ne_nil
        | cons c rest => simpa [digits] using before

/-- Decimal digits have no zero in front, unless they are that of zero alone. -/
theorem hasLeadingZero_toDigits (n : Nat) : hasLeadingZero (Nat.toDigits 10 n) = false := by
  cases n with
  | zero => rfl
  | succ n =>
      have head := head?_toDigits (Nat.succ_pos n)
      unfold hasLeadingZero
      split
      · rename_i digits
        simp [digits] at head
      · rfl

theorem magnitude?_toDigits (n : Nat) : magnitude? (Nat.toDigits 10 n) = some n := by
  have digits {c : Char} (member : c ∈ Nat.toDigits 10 n) : c.isDigit = true :=
    Nat.isDigit_of_mem_toDigits (by decide) (by decide) member
  -- A letter behind a zero would name another base.
  unfold magnitude?
  split
  · rename_i spelled
    exact absurd (digits (c := 'x') (by simp [spelled])) (by decide)
  · rename_i spelled
    exact absurd (digits (c := 'o') (by simp [spelled])) (by decide)
  · rename_i spelled
    exact absurd (digits (c := 'b') (by simp [spelled])) (by decide)
  · rw [hasLeadingZero_toDigits, numeral?_toDigits]
    rfl

theorem splitSign_toDigits (n : Nat)
    : splitSign (Nat.toDigits 10 n) = (false, Nat.toDigits 10 n) := by
  have digits {c : Char} (member : c ∈ Nat.toDigits 10 n) : c.isDigit = true :=
    Nat.isDigit_of_mem_toDigits (by decide) (by decide) member
  unfold splitSign
  split
  · rename_i spelled
    exact absurd (digits (c := '-') (by simp [spelled])) (by decide)
  · rename_i spelled
    exact absurd (digits (c := '+') (by simp [spelled])) (by decide)
  · rfl

/-- The decimal digits of a number are read as that number. -/
theorem natural?_repr (small : n < Nat.pow 2 64) : natural? n.repr = some n := by
  have spelled : n.repr.toList = Nat.toDigits 10 n := by simp [Nat.repr_eq_ofList_toDigits]
  have fits : n < Nat.pow 2 128 := Nat.lt_trans small (by decide)
  have read : whole? n.repr = some (false, n) := by
    simp only [whole?, spelled, splitSign_toDigits, magnitude?_toDigits, Option.filter]
    simp [fits]
  simp only [natural?, read, if_pos small]

end Numerals

/-- What a scalar without a tag spells: in marks of any kind a text, and else what its text means. -/
def spelledMeaning (style : Style) (text : String) : Meaning :=
  if style = .plain then .ofPlain text else .text text

namespace Node

/-- A scalar that spells a text, in quotes or so that it means nothing else. -/
inductive Spells : Node → String → Prop where
  | scalar (start : Position) (anchor : Option Nat) (style : Style) {text : String}
    (means : spelledMeaning style text = .text text)
    : Spells (.scalar start ⟨anchor, none⟩ style text) text

/-- A plain scalar with the decimal digits of a number. -/
inductive Counts : Node → UInt32 → Prop where
  | scalar (start : Position) (anchor : Option Nat) {number : UInt32}
    : Counts (.scalar start ⟨anchor, none⟩ .plain (toString number.toNat)) number

/-- A plain scalar that says that there is nothing. -/
inductive SaysNothing : Node → Prop where
  | scalar (start : Position) (anchor : Option Nat) {text : String}
    (null : text = "" ∨ isNull text = true)
    : SaysNothing (.scalar start ⟨anchor, none⟩ .plain text)

/-- A scalar that says something, whatever it means. -/
inductive SaysSomething : Node → Prop where
  | scalar (start : Position) (anchor : Option Nat) (style : Style) {text : String}
    (filled : spelledMeaning style text ≠ .null)
    : SaysSomething (.scalar start ⟨anchor, none⟩ style text)

/-- A scalar with a text, whatever it says. -/
inductive Shows : Node → String → Prop where
  | scalar (start : Position) (anchor : Option Nat) (style : Style) (text : String)
    : Shows (.scalar start ⟨anchor, none⟩ style text) text

inductive IsCollection : Node → Prop where
  | sequence (start : Position) (properties : Properties) (items : List Node)
    : IsCollection (.sequence start properties items)
  | mapping (start : Position) (properties : Properties) (entries : List (Node × Node))
    : IsCollection (.mapping start properties entries)

inductive MeansNoText : Node → Prop where
  | scalar (start : Position) (anchor : Option Nat) (style : Style) (text : String)
    (other : ∀ said, spelledMeaning style text ≠ .text said)
    : MeansNoText (.scalar start ⟨anchor, none⟩ style text)
  | collection {node : Node} (collection : node.IsCollection) : MeansNoText node

/-- Anything but a whole number of 32 bits without a sign. -/
inductive CountsNothing : Node → Prop where
  | scalar (start : Position) (anchor : Option Nat) (style : Style) (text : String)
    (other : ∀ number : UInt32, spelledMeaning style text ≠ .whole false number.toNat)
    : CountsNothing (.scalar start ⟨anchor, none⟩ style text)
  | collection {node : Node} (collection : node.IsCollection) : CountsNothing node

end Node

/-- Only what says that there is nothing means so. -/
theorem not_null_of_filled {text : String} (filled : spelledMeaning .plain text ≠ .null)
    : text ≠ "" ∧ isNull text = false := by
  by_cases null : text = "" ∨ isNull text = true
  · simp [spelledMeaning, Meaning.ofPlain, null] at filled
  · simpa using null

theorem Node.SaysSomething.isEmpty_eq {node : Node} (said : node.SaysSomething)
    : node.isEmpty = false := by
  cases said with
  | scalar start anchor style filled =>
      cases style with
      | plain => simpa [isEmpty] using (not_null_of_filled filled).1
      | _ => rfl

/-- Only a text that spells nothing else is a whole number when read as one. -/
theorem ofPlain_of_natural? {text : String} {n : Nat} (read : natural? text = some n)
    : Meaning.ofPlain text = .whole false n := by
  have whole : whole? text = some (false, n) := by
    unfold natural? at read
    split at read
    · rename_i m found
      obtain ⟨-, rfl⟩ : m < Nat.pow 2 64 ∧ m = n := by simpa using read
      exact found
    · cases read
  -- None of the words with a meaning of their own is a number.
  have noWord (word : String) (none : whole? word = none) : text ≠ word := by
    rintro rfl
    rw [none] at whole
    cases whole
  have filled : text ≠ "" := noWord "" (by decide +kernel)
  have some : isNull text = false := by
    simp [isNull, noWord "null" (by decide +kernel),
      noWord "Null" (by decide +kernel), noWord "NULL" (by decide +kernel),
      noWord "~" (by decide +kernel)]
  have undecided : truth? text = none := by
    simp [truth?, noWord "true" (by decide +kernel),
      noWord "True" (by decide +kernel), noWord "TRUE" (by decide +kernel),
      noWord "false" (by decide +kernel), noWord "False" (by decide +kernel),
      noWord "FALSE" (by decide +kernel)]
  simp [Meaning.ofPlain, filled, some, undecided, whole]

namespace Decode

variable {node : Node}

theorem follow_of_isCollection (around : Surroundings) (collection : node.IsCollection)
    : follow around node = pure node := by
  cases collection <;> rfl

section Texts

variable {wanted : String}

theorem text_of_spells (around : Surroundings) (expected : String) (path : Path)
    (spells : node.Spells wanted)
    : text around expected path node = pure wanted := by
  cases spells
  rfl

theorem text_fails (around : Surroundings) (expected : String) (path : Path)
    (collection : node.IsCollection)
    : Fails (text around expected path node) := by
  unfold text
  rw [follow_of_isCollection around collection, pure_bind]
  refine Ensures.located _ _ ?_
  cases collection <;> exact fails_unexpected _ _

end Texts

section Numbers

/-- A plain scalar with the digits of an id is read as the id. -/
theorem number_of_counts (around : Surroundings) (path : Path) {wanted : UInt32}
    (counts : node.Counts wanted)
    : number around path node = pure wanted := by
  cases counts with
  | scalar start anchor =>
      have small : wanted.toNat < UInt32.size := wanted.toNat_lt
      have read : natural? (toString wanted.toNat) = some wanted.toNat :=
        natural?_repr (Nat.lt_trans small (by decide))
      unfold number
      simp only [follow, pure_bind, isNumeric, beq_self_eq_true, Bool.true_or, if_true, read,
        if_pos small, located_pure]
      simp

theorem number_fails (around : Surroundings) (path : Path) (other : node.CountsNothing)
    : Fails (number around path node) := by
  cases other with
  | scalar start anchor style text other =>
      unfold number
      simp only [follow, pure_bind]
      refine Ensures.located _ _ ?_
      split
      · rename_i n read
        have plain : style = .plain := by
          cases style <;> simp [isNumeric] at read ⊢
        subst plain
        have spelled := ofPlain_of_natural? (by simpa [isNumeric] using read)
        split
        · rename_i small
          refine (other (.ofNat n) ?_).elim
          simp [spelledMeaning, spelled, Nat.mod_eq_of_lt small]
        · exact ensures_refuse _
      · exact fails_unexpected _ _
  | collection collection =>
      unfold number
      rw [follow_of_isCollection around collection, pure_bind]
      refine Ensures.located _ _ ?_
      cases collection <;> exact fails_unexpected _ _

end Numbers

end Decode

end ModeSwitch.Yaml
