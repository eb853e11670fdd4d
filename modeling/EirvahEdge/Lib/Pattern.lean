import Mathlib.Data.List.Infix

/-!
# Anchored patterns

A pattern is a sequence of `^`, repeated classes and `$`.  It is matched by backtracking:
`rests` are the texts that are left after each way of matching it, in the order in which they
are tried.  Where `$` holds is a parameter, because libraries differ in it, and so are the two
ways of asking for a match: of the whole text (`fullmatch`) or of some part of it (`search`).

For a pattern between `^` and `$` the difference goes away (`fullmatch_whole`, `search_whole`):
what is accepted is what the repetitions spell, provided that the search only lets `$` hold
at the end.
-/

namespace EirvahEdge.Lib

/-- `[...]{least,most}`: a class, and how often it is repeated. -/
structure Repeat (α : Type) where
  isIn : α → Bool
  least : ℕ
  most : Option ℕ

/-- A part of a pattern: `^`, a repeated class, or `$`. -/
inductive PatternItem (α : Type)
  | start
  | chars (r : Repeat α)
  | finish

abbrev Pattern (α : Type) := List (PatternItem α)

variable {α : Type}

/-! ## One repetition -/

namespace Repeat

/-- `[...]+`. -/
def plus (isIn : α → Bool) : Repeat α := ⟨isIn, 1, none⟩

/-- `[...]{n}`. -/
def times (isIn : α → Bool) (n : ℕ) : Repeat α := ⟨isIn, n, some n⟩

/-- What remains to be repeated after one character. -/
def next (r : Repeat α) : Repeat α := ⟨r.isIn, r.least - 1, r.most.map (· - 1)⟩

/-- What is left after each number of repetitions, the longest match first. -/
def rests : Repeat α → List α → List (List α)
  | r, [] => if r.least = 0 then [[]] else []
  | r, x :: cs =>
      (if r.isIn x ∧ r.most ≠ some 0 then r.next.rests cs else []) ++
        if r.least = 0 then [x :: cs] else []

/-- The text is a repetition of the class as often as it may be. -/
def Spells (r : Repeat α) (cs : List α) : Prop :=
  (∀ x ∈ cs, r.isIn x = true) ∧ r.least ≤ cs.length ∧ ∀ n, r.most = some n → cs.length ≤ n

variable {r : Repeat α} {cs rest : List α} {x : α}

theorem spells_nil : r.Spells [] ↔ r.least = 0 := by
  simp [Spells]

theorem spells_cons :
    r.Spells (x :: cs) ↔ (r.isIn x = true ∧ r.most ≠ some 0) ∧ r.next.Spells cs := by
  obtain ⟨isIn, least, most⟩ := r
  cases most with
  | none =>
      simp only [Spells, next, List.forall_mem_cons, List.length_cons, Option.map_none]
      grind
  | some n =>
      simp only [Spells, next, List.forall_mem_cons, List.length_cons, Option.map_some,
        Option.some.injEq, forall_eq', ne_eq]
      grind

theorem spells_plus {isIn : α → Bool} :
    (plus isIn).Spells cs ↔ cs ≠ [] ∧ ∀ x ∈ cs, isIn x = true := by
  rw [← List.length_pos_iff]
  simp only [Spells, plus]
  grind

theorem spells_times {isIn : α → Bool} {n : ℕ} :
    (times isIn n).Spells cs ↔ cs.length = n ∧ ∀ x ∈ cs, isIn x = true := by
  simp only [Spells, times, Option.some.injEq, forall_eq']
  grind

/-- What is left follows a repetition. -/
theorem mem_rests : rest ∈ r.rests cs ↔ ∃ taken, cs = taken ++ rest ∧ r.Spells taken := by
  induction cs generalizing r with
  | nil =>
      have hnil : (∃ taken, [] = taken ++ rest ∧ r.Spells taken) ↔ rest = [] ∧ r.least = 0 := by
        rw [← spells_nil]
        constructor
        · rintro ⟨taken, heq, hspells⟩
          obtain ⟨rfl, rfl⟩ := List.append_eq_nil_iff.1 heq.symm
          exact ⟨rfl, hspells⟩
        · rintro ⟨rfl, hspells⟩
          exact ⟨[], rfl, hspells⟩
      rw [hnil, rests]
      split_ifs with hleast
      · rw [List.mem_singleton, and_iff_left hleast]
      · exact iff_of_false List.not_mem_nil fun h => hleast h.2
  | cons x cs ih =>
      rw [rests, List.mem_append]
      constructor
      · rintro (h | h)
        · split_ifs at h with hmore
          · obtain ⟨taken, rfl, hspells⟩ := ih.1 h
            exact ⟨x :: taken, rfl, spells_cons.2 ⟨hmore, hspells⟩⟩
          · exact absurd h List.not_mem_nil
        · split_ifs at h with hleast
          · rw [List.mem_singleton] at h
            exact ⟨[], h.symm, spells_nil.2 hleast⟩
          · exact absurd h List.not_mem_nil
      · rintro ⟨taken, heq, hspells⟩
        cases taken with
        | nil =>
            right
            rw [if_pos (spells_nil.1 hspells), List.mem_singleton]
            exact heq.symm
        | cons y taken =>
            left
            obtain ⟨rfl, rfl⟩ := List.cons.inj heq
            obtain ⟨hmore, hspells⟩ := spells_cons.1 hspells
            rw [if_pos hmore]
            exact ih.2 ⟨taken, rfl, hspells⟩

end Repeat

/-! ## A pattern -/

/-- `$` at the end of the text only. -/
def atEnd (rest : List α) : Bool := rest.isEmpty

/-- `$` at the end, and before a line break that ends the text. -/
def atEndOrFinal (newline : α → Bool) : List α → Bool
  | [] => true
  | [c] => newline c
  | _ => false

namespace PatternItem

variable (ends : List α → Bool) (length : ℕ)

/-- What is left after a part, in a text of this length. -/
def rests : PatternItem α → List α → List (List α)
  | .start, cs => if cs.length = length then [cs] else []
  | .chars r, cs => r.rests cs
  | .finish, cs => if ends cs then [cs] else []

end PatternItem

namespace Pattern

variable (ends : List α → Bool)

def rests (length : ℕ) : Pattern α → List α → List (List α)
  | [], cs => [cs]
  | item :: p, cs => (item.rests ends length cs).flatMap (rests length p)

/-- Whether the pattern matches the whole text. -/
def fullmatch (p : Pattern α) (text : List α) : Bool :=
  (rests ends text.length p text).any List.isEmpty

/-- Whether it matches from some position on. -/
def search (p : Pattern α) (text : List α) : Bool :=
  text.tails.any fun cs => !(rests ends text.length p cs).isEmpty

/-- `^...$`. -/
def whole (parts : List (Repeat α)) : Pattern α :=
  .start :: (parts.map .chars ++ [.finish])

/-- The text is one repetition after the other. -/
def Spells : List (Repeat α) → List α → Prop
  | [], cs => cs = []
  | r :: parts, cs => ∃ head tail, cs = head ++ tail ∧ r.Spells head ∧ Spells parts tail

theorem spells_singleton {r : Repeat α} {cs : List α} : Spells [r] cs ↔ r.Spells cs := by
  constructor
  · rintro ⟨head, tail, rfl, hspells, rfl⟩
    rwa [List.append_nil]
  · intro hspells
    exact ⟨cs, [], (List.append_nil cs).symm, hspells, rfl⟩

variable {ends} {length : ℕ} {parts : List (Repeat α)} {cs rest text : List α}

theorem mem_rests_parts :
    rest ∈ rests ends length (parts.map .chars ++ [.finish]) cs ↔
      ends rest = true ∧ ∃ taken, cs = taken ++ rest ∧ Spells parts taken := by
  induction parts generalizing cs with
  | nil =>
      have hnil : (∃ taken, cs = taken ++ rest ∧ Spells ([] : List (Repeat α)) taken) ↔
          cs = rest := by
        simp [Spells]
      rw [hnil]
      simp only [List.map_nil, List.nil_append, rests, PatternItem.rests, List.mem_flatMap,
        List.mem_singleton, exists_eq_right']
      split_ifs with hends
      · rw [List.mem_singleton]
        grind
      · grind
  | cons r parts ih =>
      rw [List.map_cons, List.cons_append, rests, List.mem_flatMap]
      constructor
      · rintro ⟨middle, hmiddle, hrest⟩
        obtain ⟨head, rfl, hhead⟩ := Repeat.mem_rests.1 hmiddle
        obtain ⟨hends, tail, rfl, htail⟩ := ih.1 hrest
        exact ⟨hends, head ++ tail, (List.append_assoc ..).symm, head, tail, rfl, hhead, htail⟩
      · rintro ⟨hends, taken, rfl, head, tail, rfl, hhead, htail⟩
        exact ⟨tail ++ rest, Repeat.mem_rests.2 ⟨head, List.append_assoc .., hhead⟩,
          ih.2 ⟨hends, tail, rfl, htail⟩⟩

/-- `^` only holds at the start. -/
theorem mem_rests_whole :
    rest ∈ rests ends length (whole parts) cs ↔
      cs.length = length ∧ ends rest = true ∧ ∃ taken, cs = taken ++ rest ∧ Spells parts taken := by
  rw [whole, rests, List.mem_flatMap]
  simp only [PatternItem.rests]
  split_ifs with hlength
  · simp [hlength, mem_rests_parts]
  · simp [hlength]

/-- A match of the whole text is of what the repetitions spell, wherever else `$` holds. -/
theorem fullmatch_whole (hends : ends [] = true) :
    fullmatch ends (whole parts) text = true ↔ Spells parts text := by
  rw [fullmatch, List.any_eq_true]
  constructor
  · rintro ⟨rest, hrest, hempty⟩
    obtain ⟨-, -, taken, rfl, hspells⟩ := mem_rests_whole.1 hrest
    rw [List.isEmpty_iff.1 hempty, List.append_nil]
    exact hspells
  · intro hspells
    exact ⟨[], mem_rests_whole.2 ⟨rfl, hends, text, (List.append_nil text).symm, hspells⟩, rfl⟩

/-- A search finds the same where `$` holds at the end only. -/
theorem search_whole : search atEnd (whole parts) text = true ↔ Spells parts text := by
  simp only [search, List.any_eq_true, List.mem_tails, Bool.not_eq_true',
    List.isEmpty_eq_false_iff_exists_mem]
  constructor
  · rintro ⟨cs, hsuffix, rest, hrest⟩
    obtain ⟨hlength, hends, taken, rfl, hspells⟩ := mem_rests_whole.1 hrest
    rw [← hsuffix.eq_of_length hlength, List.isEmpty_iff.1 hends, List.append_nil]
    exact hspells
  · intro hspells
    exact ⟨text, List.suffix_refl text, [],
      mem_rests_whole.2 ⟨rfl, rfl, text, (List.append_nil text).symm, hspells⟩⟩

end Pattern

end EirvahEdge.Lib
