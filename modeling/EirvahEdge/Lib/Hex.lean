import Mathlib.Data.List.Induction
import Mathlib.Data.Nat.Digits.Defs
import Mathlib.Tactic.IntervalCases

/-!
# Padded hexadecimal numbers

`format(n, "0{width}x")` for numbers that fit the width, and `int(text, 16)`.
Reading back what was written gives the number again (`parse_pad`), so padded
texts of one width are different for different numbers.
-/

namespace EirvahEdge.Lib.Hex

/-- The lower-case digits of a number, most significant first, at this width. -/
def pad : ℕ → ℕ → List Char
  | 0, _ => []
  | w + 1, n => pad w (n / 16) ++ [Nat.digitChar (n % 16)]

/-- The value of one digit. -/
def digitValue (c : Char) : ℕ := if c ≤ '9' then c.toNat - 48 else c.toNat - 87

/-- `int(text, 16)` of a text of digits. -/
def parse (cs : List Char) : ℕ := cs.foldl (fun n c => 16 * n + digitValue c) 0

theorem digitValue_digitChar {d : ℕ} (h : d < 16) : digitValue (Nat.digitChar d) = d := by
  interval_cases d <;> rfl

theorem digitChar_ne_colon {d : ℕ} (h : d < 16) : Nat.digitChar d ≠ ':' := by
  interval_cases d <;> decide

theorem length_pad (w n : ℕ) : (pad w n).length = w := by
  induction w generalizing n with
  | zero => rfl
  | succ w ih => rw [pad, List.length_append, ih, List.length_singleton]

theorem parse_pad {w n : ℕ} (h : n < 16 ^ w) : parse (pad w n) = n := by
  induction w generalizing n with
  | zero =>
      rw [pow_zero, Nat.lt_one_iff] at h
      rw [h]
      rfl
  | succ w ih =>
      have hdiv : n / 16 < 16 ^ w := by
        rw [Nat.div_lt_iff_lt_mul (by norm_num), ← pow_succ]
        exact h
      have hlast : digitValue (Nat.digitChar (n % 16)) = n % 16 :=
        digitValue_digitChar (Nat.mod_lt _ (by norm_num))
      have hinit : (pad w (n / 16)).foldl (fun n c => 16 * n + digitValue c) 0 = n / 16 :=
        ih hdiv
      rw [parse, pad, List.foldl_append, hinit, List.foldl_cons, List.foldl_nil, hlast]
      exact Nat.div_add_mod n 16

/-- `[0-9a-f]`. -/
def isDigit (c : Char) : Bool := ('0' ≤ c && c ≤ '9') || ('a' ≤ c && c ≤ 'f')

theorem isDigit_digitChar {d : ℕ} (h : d < 16) : isDigit (Nat.digitChar d) = true := by
  interval_cases d <;> decide

/-- A digit is the digit of its value. -/
theorem digitChar_digitValue {c : Char} (h : isDigit c = true) :
    digitValue c < 16 ∧ Nat.digitChar (digitValue c) = c := by
  have hdigits : ∀ n < 103, isDigit (Char.ofNat n) = true →
      digitValue (Char.ofNat n) < 16 ∧
        Nat.digitChar (digitValue (Char.ofNat n)) = Char.ofNat n := by
    decide
  have hlt : c.toNat < 103 := by
    simp only [isDigit, Bool.or_eq_true, Bool.and_eq_true, decide_eq_true_eq] at h
    rcases h with ⟨-, h⟩ | ⟨-, h⟩
    · have hle : c.toNat ≤ '9'.toNat := h
      exact lt_of_le_of_lt hle (by decide)
    · have hle : c.toNat ≤ 'f'.toNat := h
      exact lt_of_le_of_lt hle (by decide)
  have hback : Char.ofNat c.toNat = c := Char.ofNat_toNat c
  have hdigit := hdigits c.toNat hlt
  rw [hback] at hdigit
  exact hdigit h

theorem isDigit_of_mem_pad {w n : ℕ} {c : Char} (h : c ∈ pad w n) : isDigit c = true := by
  induction w generalizing n with
  | zero => exact absurd h List.not_mem_nil
  | succ w ih =>
      rw [pad, List.mem_append, List.mem_singleton] at h
      rcases h with h | h
      · exact ih h
      · rw [h]
        exact isDigit_digitChar (Nat.mod_lt _ (by norm_num))

theorem parse_append (cs : List Char) (c : Char) :
    parse (cs ++ [c]) = 16 * parse cs + digitValue c := by
  rw [parse, List.foldl_append]
  rfl

/-- Writing back what was read gives the digits again. -/
theorem pad_parse {cs : List Char} (h : ∀ c ∈ cs, isDigit c = true) :
    pad cs.length (parse cs) = cs ∧ parse cs < 16 ^ cs.length := by
  induction cs using List.reverseRecOn with
  | nil => exact ⟨rfl, by decide⟩
  | append_singleton cs c ih =>
      have hinit := ih fun d hd => h d (List.mem_append_left _ hd)
      have hlast := digitChar_digitValue (h c (by simp))
      have hdiv : (16 * parse cs + digitValue c) / 16 = parse cs := by omega
      have hmod : (16 * parse cs + digitValue c) % 16 = digitValue c := by omega
      rw [parse_append, List.length_append, List.length_singleton, pad, hdiv, hmod, hinit.1,
        hlast.2, pow_succ]
      exact ⟨rfl, by omega⟩

theorem colon_notMem_pad (w n : ℕ) : ':' ∉ pad w n := by
  induction w generalizing n with
  | zero => exact List.not_mem_nil
  | succ w ih =>
      rw [pad, List.mem_append, List.mem_singleton]
      rintro (h | h)
      · exact ih _ h
      · exact digitChar_ne_colon (Nat.mod_lt _ (by norm_num)) h.symm

end EirvahEdge.Lib.Hex
