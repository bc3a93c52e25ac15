import Mathlib.Logic.Relation
import ModeSwitch.AttrPath

/-! Spellings of a place.

Tidying a spelling drops one accident of it: a repeated separator, a separator at the end, or an
inner dot.  Two paths name the same place exactly when tidying, forth and back, leads from one
spelling to the other.  Nothing else is an accident, so a step up stays as it is, and a path from the
root is never one from elsewhere.
-/

namespace ModeSwitch.AttrPath

/-- The second spelling has one accident less than the first. -/
inductive Tidies : List Char → List Char → Prop
  | separator (front rest : List Char)
    : Tidies (front ++ '/' :: '/' :: rest) (front ++ '/' :: rest)
  | trailing (front : List Char) (further : front ≠ []) : Tidies (front ++ ['/']) front
  | dot (front rest : List Char)
    : Tidies (front ++ '/' :: '.' :: '/' :: rest) (front ++ '/' :: rest)

/-- Tidying, forth and back, leads from one spelling to the other. -/
def Respelled : List Char → List Char → Prop :=
  Relation.EqvGen Tidies

/-- A piece that counts as a name wherever it stands. -/
def IsName (part : List Char) : Prop :=
  part ≠ [] ∧ part ≠ ['.']

instance (part : List Char) : Decidable (IsName part) :=
  inferInstanceAs (Decidable (part ≠ [] ∧ part ≠ ['.']))

def separated (parts : List (List Char)) : List Char :=
  parts.flatMap ('/' :: ·)

def tidied (rooted : Bool) (names : List (List Char)) : List Char :=
  (if rooted then ['/'] else []) ++ (separated names).tail

@[simp]
theorem separated_nil : separated [] = [] :=
  rfl

@[simp]
theorem separated_cons (part : List Char) (parts : List (List Char))
    : separated (part :: parts) = '/' :: (part ++ separated parts) :=
  rfl

/-! ## Pieces -/

@[simp]
theorem pieces_separator (chars : List Char) : pieces ('/' :: chars) = [] :: pieces chars := by
  simp [pieces]

/-- Any other character goes to the first piece. -/
theorem exists_pieces_cons {c : Char} (h : c ≠ '/') (chars : List Char)
    : ∃ part rest, pieces chars = part :: rest ∧ pieces (c :: chars) = (c :: part) :: rest := by
  induction chars generalizing c with
  | nil => exact ⟨[], [], rfl, by simp [pieces, h]⟩
  | cons d chars ih =>
      by_cases separator : d = '/'
      · subst separator
        exact ⟨[], pieces chars, pieces_separator chars, by simp [pieces, h]⟩
      · obtain ⟨part, rest, -, more⟩ := ih separator
        exact ⟨d :: part, rest, more, by rw [pieces, if_neg h, more]⟩

/-- The pieces make up the spelling, with a separator in front. -/
theorem separated_pieces (chars : List Char) : separated (pieces chars) = '/' :: chars := by
  induction chars with
  | nil => rfl
  | cons c chars ih =>
      by_cases separator : c = '/'
      · subst separator
        rw [pieces_separator, separated_cons, ih, List.nil_append]
      · obtain ⟨part, rest, first, more⟩ := exists_pieces_cons separator chars
        rw [first, separated_cons] at ih
        rw [more, separated_cons, List.cons_append, List.tail_eq_of_cons_eq ih]

/-- A separator cuts the pieces of a text into those before it and those behind it. -/
theorem pieces_append_separator (front rest : List Char)
    : pieces (front ++ '/' :: rest) = pieces front ++ pieces rest := by
  induction front with
  | nil => exact pieces_separator rest
  | cons c front ih =>
      by_cases separator : c = '/'
      · subst separator
        rw [List.cons_append, pieces_separator, pieces_separator, ih, List.cons_append]
      · obtain ⟨part, parts, first, more⟩ := exists_pieces_cons separator front
        rw [more, List.cons_append, pieces, if_neg separator, ih, first]
        rfl

theorem pieces_ne_nil (chars : List Char) : pieces chars ≠ [] := by
  intro none
  have whole := separated_pieces chars
  rw [none] at whole
  cases whole

/-- Behind a separator at the start, every piece counts only if it is a name. -/
theorem namesOf_from_root (rest : List (List Char))
    : namesOf ([] :: rest) = rest.filter (IsName ·) :=
  rfl

theorem namesOf_relative {first : List Char} (h : first ≠ []) (rest : List (List Char))
    : namesOf (first :: rest) = first :: rest.filter (IsName ·) :=
  if_neg h

/-- Behind the first piece only names count. -/
theorem namesOf_append {parts : List (List Char)} (h : parts ≠ []) (more : List (List Char))
    : namesOf (parts ++ more) = namesOf parts ++ more.filter (IsName ·) := by
  cases parts with
  | nil => exact (h rfl).elim
  | cons first rest =>
      by_cases empty : first = []
      · subst empty
        rw [List.cons_append, namesOf_from_root, namesOf_from_root, List.filter_append]
      · rw [List.cons_append, namesOf_relative empty, namesOf_relative empty, List.filter_append,
          List.cons_append]

/-- The names of a spelling that goes on behind a separator. -/
theorem namesOf_pieces_append (front rest : List Char)
    : namesOf (pieces (front ++ '/' :: rest))
      = namesOf (pieces front) ++ (pieces rest).filter (IsName ·) := by
  rw [pieces_append_separator, namesOf_append (pieces_ne_nil front)]

/-! ## Tidying keeps the place -/

/-- The place of a path follows from its first character and from the names among its pieces. -/
theorem place_ofList (chars : List Char)
    : place ⟨String.ofList chars⟩
      = ⟨chars.head? = some '/', (namesOf (pieces chars)).map String.ofList⟩ := by
  simp [place]

/-- An accident names nothing. -/
theorem Tidies.place_eq {chars tidier : List Char} (h : Tidies chars tidier)
    : place ⟨String.ofList chars⟩ = place ⟨String.ofList tidier⟩ := by
  rw [place_ofList, place_ofList]
  cases h with
  | separator front rest =>
      simp [namesOf_pieces_append, List.head?_append, IsName]
  | trailing front further =>
      -- What is left still begins as the whole did; the root alone would not.
      have head : (tidier ++ ['/']).head? = tidier.head? := by
        rw [List.head?_append, List.head?_eq_some_head further, Option.some_or]
      simp [namesOf_pieces_append, head, pieces, IsName]
  | dot front rest =>
      simp [namesOf_pieces_append, List.head?_append, IsName, pieces]

/-- Respelling a path does not change its place, by induction on the ways forth and back. -/
theorem Respelled.place_eq {chars other : List Char} (h : Respelled chars other)
    : place ⟨String.ofList chars⟩ = place ⟨String.ofList other⟩ := by
  induction h with
  | rel _ _ tidies => exact tidies.place_eq
  | refl _ => rfl
  | symm _ _ _ back => exact back.symm
  | trans _ _ _ _ _ first second => exact first.trans second

/-! ## Every spelling can be tidied -/

namespace Respelled

theorem refl (chars : List Char) : Respelled chars chars :=
  Relation.EqvGen.refl chars

theorem symm {chars other : List Char} (h : Respelled chars other) : Respelled other chars :=
  Relation.EqvGen.symm chars other h

theorem trans {chars other another : List Char} (first : Respelled chars other)
    (second : Respelled other another)
    : Respelled chars another :=
  Relation.EqvGen.trans chars other another first second

theorem of_tidies {chars tidier : List Char} (h : Tidies chars tidier) : Respelled chars tidier :=
  Relation.EqvGen.rel chars tidier h

end Respelled

open Respelled

/-- A piece that is no name can be left out before a separator. -/
theorem respelled_without {part : List Char} (h : ¬ IsName part) (front rest : List Char)
    : Respelled (front ++ '/' :: (part ++ '/' :: rest)) (front ++ '/' :: rest) := by
  by_cases empty : part = []
  · subst empty
    exact of_tidies (.separator front rest)
  · obtain rfl : part = ['.'] := Classical.byContradiction fun other => h ⟨empty, other⟩
    exact of_tidies (.dot front rest)

/-- A piece that is no name can be left out at the end. -/
theorem respelled_end {part : List Char} (h : ¬ IsName part) (front : List Char)
    : Respelled (front ++ '/' :: part) (front ++ ['/']) := by
  by_cases empty : part = []
  · subst empty
    exact refl _
  · obtain rfl : part = ['.'] := Classical.byContradiction fun other => h ⟨empty, other⟩
    -- The dot gets a separator behind it, and is an inner one then.
    have further : front ++ ['/', '.'] ≠ [] := by simp
    have longer : Respelled (front ++ ['/', '.']) (front ++ ['/', '.', '/']) := by
      simpa using (of_tidies (.trailing (front ++ ['/', '.']) further)).symm
    exact longer.trans (of_tidies (.dot front []))

/-- Behind a name all that is no name can be left out, by induction on the pieces. -/
theorem respelled_names {front : List Char} (further : front ≠ []) (parts : List (List Char))
    : Respelled (front ++ separated parts) (front ++ separated (parts.filter (IsName ·))) := by
  induction parts generalizing front with
  | nil => exact refl _
  | cons part rest ih =>
      by_cases name : IsName part
      · have longer : front ++ '/' :: part ≠ [] := by simp
        simpa [name] using ih longer
      · rw [List.filter_cons_of_neg (by simpa using name)]
        refine .trans ?_ (ih further)
        -- Before another piece it goes with its own separator, and at the end the last one goes too.
        cases rest with
        | nil =>
            simpa using (respelled_end name front).trans (of_tidies (.trailing front further))
        | cons next rest => exact respelled_without name front (next ++ separated rest)

/-- From the root on, all that is no name can be left out. -/
theorem respelled_from_root {parts : List (List Char)} (some : parts ≠ [])
    : Respelled (separated parts) (tidied true (parts.filter (IsName ·))) := by
  induction parts with
  | nil => exact (some rfl).elim
  | cons part rest ih =>
      by_cases name : IsName part
      · have further : '/' :: part ≠ [] := by simp
        simpa [tidied, name] using respelled_names further rest
      · rw [List.filter_cons_of_neg (by simpa using name)]
        cases rest with
        | nil => simpa [tidied] using respelled_end name []
        | cons next rest =>
            exact (respelled_without name [] (next ++ separated rest)).trans (ih (by simp))

/-- Every path is respelled without accidents. -/
theorem respelled_tidied (path : AttrPath)
    : Respelled path.text.toList
        (tidied path.place.rooted (path.place.names.map String.toList)) := by
  unfold place
  cases path.text.toList with
  | nil => exact refl _
  | cons c chars =>
      by_cases separator : c = '/'
      · subst separator
        have rooted := respelled_from_root (pieces_ne_nil chars)
        rw [separated_pieces] at rooted
        simpa [namesOf_from_root, Function.comp_def] using rooted
      · obtain ⟨part, rest, -, more⟩ := exists_pieces_cons separator chars
        have whole := separated_pieces (c :: chars)
        rw [more, separated_cons, List.cons.injEq] at whole
        have relative := respelled_names (List.cons_ne_nil c part) rest
        rw [whole.2] at relative
        simpa [more, namesOf_relative, Function.comp_def, separator, tidied] using relative

/-- Two paths name the same place exactly when one is a respelling of the other. -/
theorem samePlace_iff_respelled {path other : AttrPath}
    : path.SamePlace other ↔ Respelled path.text.toList other.text.toList := by
  constructor
  · intro same
    have place_eq : path.place = other.place := same
    have tidy := respelled_tidied path
    rw [place_eq] at tidy
    exact tidy.trans (respelled_tidied other).symm
  · intro respelled
    simpa [SamePlace] using respelled.place_eq

/-! ## Tidy spellings of different places -/

/-- Names that a path can lead along: steps up are among them. -/
def ProperNames (names : List (List Char)) : Prop :=
  ∀ name ∈ names, IsName name ∧ '/' ∉ name

instance (names : List (List Char)) : Decidable (ProperNames names) :=
  inferInstanceAs (Decidable (∀ name ∈ names, IsName name ∧ '/' ∉ name))

theorem pieces_of_not_mem {chars : List Char} (h : '/' ∉ chars) : pieces chars = [chars] := by
  induction chars with
  | nil => rfl
  | cons c chars ih =>
      have other : c ≠ '/' := (List.ne_of_not_mem_cons h).symm
      rw [pieces, if_neg other, ih (List.not_mem_of_not_mem_cons h)]

/-- Names without separators are got back from the text that they are written in. -/
theorem pieces_append_separated {first : List Char} {names : List (List Char)}
    (h : '/' ∉ first) (none : ∀ name ∈ names, '/' ∉ name)
    : pieces (first ++ separated names) = first :: names := by
  induction names generalizing first with
  | nil => simpa using pieces_of_not_mem h
  | cons name names ih =>
      obtain ⟨here, rest⟩ := List.forall_mem_cons.mp none
      rw [separated_cons, pieces_append_separator, pieces_of_not_mem h, ih here rest]
      rfl

/-- A tidy spelling leads along all of its names, and from the root if it begins there. -/
theorem place_tidied (rooted : Bool) {names : List (List Char)} (proper : ProperNames names)
    : place ⟨String.ofList (tidied rooted names)⟩ = ⟨rooted, names.map String.ofList⟩ := by
  rw [place_ofList]
  cases names with
  | nil => cases rooted <;> decide
  | cons name names =>
      obtain ⟨⟨counts, single⟩, rest⟩ := List.forall_mem_cons.mp proper
      have split := pieces_append_separated single fun name member => (rest name member).2
      have all : names.filter (IsName ·) = names :=
        List.filter_eq_self.mpr fun name member => by simpa using (rest name member).1
      cases rooted with
      | true => simp [tidied, split, namesOf_from_root, all, counts]
      | false =>
          obtain ⟨c, name, rfl⟩ := List.exists_cons_of_ne_nil counts.1
          have other : c ≠ '/' := fun same => single (same ▸ List.mem_cons_self)
          rw [List.cons_append] at split
          simp [tidied, split, namesOf_relative, all, other]

/-- Tidy spellings name the same place only if they are the same, name by name. -/
theorem samePlace_tidied_iff {rooted rooted' : Bool} {names names' : List (List Char)}
    (proper : ProperNames names) (proper' : ProperNames names')
    : SamePlace ⟨String.ofList (tidied rooted names)⟩ ⟨String.ofList (tidied rooted' names')⟩
      ↔ rooted = rooted' ∧ names = names' := by
  rw [SamePlace, place_tidied rooted proper, place_tidied rooted' proper', Place.mk.injEq,
    List.map_inj_right fun _ _ => String.ofList_inj.mp]

end ModeSwitch.AttrPath
