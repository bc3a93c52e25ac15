import Mathlib.Data.List.TakeWhile
import Mathlib.Tactic.SplitIfs
import ModeSwitch.Proofs.Text.LineEnds
import ModeSwitch.Text.Quoted

/-! Quoted texts are read back.

The written form of a character tells where it ends and which character it stands for, whatever
follows it.  So two texts with the same quoted form are the same text.  No written form holds a
character that ends a line.
-/

namespace ModeSwitch.Text

/-! ## Numbers in hexadecimal -/

def hexDigitValue (c : Char) : Nat :=
  if c.isDigit then c.toNat - '0'.toNat else c.toNat - 'a'.toNat + 10

def hexValue (digits : List Char) : Nat :=
  digits.foldl (fun value c => 16 * value + hexDigitValue c) 0

/-- A hexadecimal digit has its value back. -/
theorem hexDigitValue_digitChar {d : Nat} (small : d < 16) : hexDigitValue d.digitChar = d := by
  have each : ∀ d < 16, hexDigitValue (Nat.digitChar d) = d := by decide
  exact each d small

/-- The digits of a number are read back as the number, by induction on how many there are. -/
theorem hexValue_hexDigits (n : Nat) : hexValue (hexDigits n) = n := by
  induction n using Nat.strongRecOn with
  | ind n ih =>
      unfold hexValue hexDigits at *
      by_cases small : n < 16
      · simp [Nat.toDigits_of_lt_base small, hexDigitValue_digitChar small]
      · have last := hexDigitValue_digitChar (Nat.mod_lt n (by decide : 0 < 16))
        rw [Nat.toDigits_of_base_le (by decide) (by omega), List.foldl_append, ih _ (by omega),
          List.foldl_cons, List.foldl_nil, last]
        omega

/-- Every digit of a number is one of the sixteen digits. -/
theorem exists_digit_of_mem {n : Nat} {c : Char} (member : c ∈ hexDigits n)
    : ∃ d < 16, c = Nat.digitChar d := by
  induction n using Nat.strongRecOn with
  | ind n ih =>
      unfold hexDigits at *
      by_cases small : n < 16
      · rw [Nat.toDigits_of_lt_base small, List.mem_singleton] at member
        exact ⟨n, small, member⟩
      · rw [Nat.toDigits_of_base_le (by decide) (by omega), List.mem_append,
          List.mem_singleton] at member
        rcases member with earlier | last
        · exact ih (n / 16) (by omega) earlier
        · exact ⟨n % 16, Nat.mod_lt n (by decide), last⟩

/-! ## Written forms -/

/-- No character ends a line. -/
def InLine (text : List Char) : Prop :=
  ∀ c ∈ text, isLineEnd c = false

instance (text : List Char) : Decidable (InLine text) :=
  List.decidableBAll (fun c => isLineEnd c = false) text

theorem inLine_append {first second : List Char}
    : InLine (first ++ second) ↔ InLine first ∧ InLine second :=
  List.forall_mem_append

theorem inLine_hexDigits (n : Nat) : InLine (hexDigits n) := by
  intro c member
  obtain ⟨d, small, rfl⟩ := exists_digit_of_mem member
  exact (by decide : ∀ d < 16, isLineEnd (Nat.digitChar d) = false) d small

/-- The character that a letter behind a backslash stands for. -/
def letterMeaning (letter : Char) : Char :=
  if letter = 'n' then '\n'
  else if letter = 'r' then '\r'
  else if letter = 't' then '\t'
  else if letter = '0' then '\x00'
  else letter

/-- The first character of a text in written form, and what follows its form. -/
def readChar : List Char → Option (Char × List Char)
  | [] => none
  | '\\' :: 'u' :: '\x7b' :: rest =>
      let isInside (c : Char) : Bool := c ≠ '\x7d'
      some (Char.ofNat (hexValue (rest.takeWhile isInside)), (rest.dropWhile isInside).drop 1)
  | '\\' :: letter :: rest => some (letterMeaning letter, rest)
  | c :: rest => some (c, rest)

inductive Writes : Char → List Char → Prop where
  /-- A letter behind a backslash stands for the character. -/
  | lettered (letter : Char) (unnumbered : letter ≠ 'u') (inLine : isLineEnd letter = false)
    : Writes (letterMeaning letter) ['\\', letter]
  | numbered (c : Char) : Writes c (['\\', 'u', '\x7b'] ++ hexDigits c.toNat ++ ['\x7d'])
  | itself (c : Char) (unescaped : c ≠ '\\') (inLine : isLineEnd c = false) : Writes c [c]

/-- A character that ends a line or begins a written form of another kind never stands for itself. -/
theorem writes_escapeChar (c : Char) : Writes c (escapeChar c) := by
  unfold escapeChar
  split_ifs with quotes escapes feeds returns tabs ends unseen
  · subst quotes
    exact .lettered '"' (by decide) (by decide)
  · subst escapes
    exact .lettered '\\' (by decide) (by decide)
  · subst feeds
    exact .lettered 'n' (by decide) (by decide)
  · subst returns
    exact .lettered 'r' (by decide) (by decide)
  · subst tabs
    exact .lettered 't' (by decide) (by decide)
  · subst ends
    exact .lettered '0' (by decide) (by decide)
  · exact .numbered c
  · exact .itself c escapes (by simp [isLineEnd, feeds, returns])

namespace Writes

variable {c : Char} {form : List Char}

/-- A written form is read as its character, whatever follows. -/
theorem readChar_append (written : Writes c form) (rest : List Char)
    : readChar (form ++ rest) = some (c, rest) := by
  cases written with
  | lettered letter unnumbered inLine => simp [readChar, unnumbered]
  | numbered _ =>
      have inside : ∀ d ∈ hexDigits c.toNat, decide (d ≠ '\x7d') = true := by
        intro d member
        obtain ⟨value, small, rfl⟩ := exists_digit_of_mem member
        exact (by decide : ∀ value < 16, decide (Nat.digitChar value ≠ '\x7d') = true) value small
      simp only [List.append_assoc, List.cons_append, List.nil_append, readChar]
      rw [List.takeWhile_append_of_pos inside, List.dropWhile_append_of_pos inside]
      simp [hexValue_hexDigits]
  | itself _ unescaped inLine => simp [readChar, unescaped]

/-- A written form holds no character that ends a line: there are letters for those. -/
theorem inLine (written : Writes c form) : InLine form := by
  cases written with
  | lettered letter unnumbered inLine => simpa [InLine] using ⟨rfl, inLine⟩
  | numbered _ =>
      have opens : InLine ['\\', 'u', '\x7b'] := by decide
      have closes : InLine ['\x7d'] := by decide
      exact inLine_append.mpr ⟨inLine_append.mpr ⟨opens, inLine_hexDigits c.toNat⟩, closes⟩
  | itself _ unescaped inLine => simpa [InLine] using inLine

end Writes

/-- The written form of a character is read as this character, whatever follows. -/
theorem readChar_escapeChar (c : Char) (rest : List Char)
    : readChar (escapeChar c ++ rest) = some (c, rest) :=
  (writes_escapeChar c).readChar_append rest

/-- The written forms of two texts are the same only if the texts are, by induction on both: the first
characters are read back. -/
theorem flatMap_escapeChar_injective : Function.Injective (List.flatMap escapeChar) := by
  intro first
  induction first with
  | nil =>
      intro second same
      cases second with
      | nil => rfl
      | cons d second =>
          have read := readChar_escapeChar d (second.flatMap escapeChar)
          rw [← List.flatMap_cons, ← same] at read
          cases read
  | cons c first ih =>
      intro second same
      have read := readChar_escapeChar c (first.flatMap escapeChar)
      rw [← List.flatMap_cons, same] at read
      cases second with
      | nil => cases read
      | cons d second =>
          rw [List.flatMap_cons, readChar_escapeChar] at read
          obtain ⟨rfl, rest⟩ := Prod.mk.inj (Option.some.inj read)
          rw [ih rest.symm]

/-- No two texts share a quoted form. -/
theorem quote_injective : Function.Injective quote := by
  intro first second same
  have inner : first.toList.flatMap escapeChar = second.toList.flatMap escapeChar := by
    simpa [quote, String.ofList_inj] using same
  exact String.toList_inj.mp (flatMap_escapeChar_injective inner)

/-- A quoted text stands in one line. -/
theorem inLine_quote (text : String) : InLine (quote text).toList := by
  have quotes : InLine ['"'] := by decide
  have inside : InLine (text.toList.flatMap escapeChar) := by
    intro c member
    obtain ⟨d, -, inside⟩ := List.mem_flatMap.mp member
    exact (writes_escapeChar d).inLine c inside
  rw [quote, String.toList_ofList, List.cons_append, ← List.singleton_append]
  exact inLine_append.mpr ⟨quotes, inLine_append.mpr ⟨inside, quotes⟩⟩

end ModeSwitch.Text
