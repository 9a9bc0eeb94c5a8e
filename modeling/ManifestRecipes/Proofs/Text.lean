import ManifestRecipes.Text.Digits
import Mathlib.Algebra.Group.Nat.Defs
import Mathlib.Data.List.Induction
import Mathlib.Data.List.TakeWhile

/-
  Runs of characters and the numerals among them.

  A run ends where text follows that does not go on with it,
  and is then taken off as it was written.  A numeral is a run
  of digits and stands for its value; the written form of a
  number is read back.

  Key definitions include:
    * `Ends`

  Main declarations:
    * `takeWhile_append`
    * `dropWhile_append`
    * `Digits.value_append`
    * `Digits.readUnsigned64?_eq_some_iff`
    * `Digits.readInt?_writeInt`
    * `Digits.write_mul_pow`
    * `Digits.readUnsigned64?_write`
-/

namespace ManifestRecipes

------------------------------------------------------------
-- Runs
------------------------------------------------------------

/- A text does not begin with a character of a class. -/
def Ends (p : Char → Bool) (rest : List Char) : Prop :=
  ∀ c, rest.head? = some c → p c = false

section Runs

variable {p : Char → Bool} {run rest : List Char}

theorem ne_of_class
    {c d : Char}
    (hIn : p c = true)
    (hOut : p d = false) :
    c ≠ d := by
  intro hSame
  rw [hSame, hOut] at hIn
  cases hIn

@[simp] theorem ends_nil : Ends p [] := by
  intro c hHead
  cases hHead

@[simp] theorem ends_cons_iff {c : Char} :
    Ends p (c :: rest) ↔ p c = false := by
  simp [Ends]

theorem ends_append
    (hGiven : run ≠ [])
    (hOut : ∀ c ∈ run, p c = false) :
    Ends p (run ++ rest) := by
  cases run with
  | nil => exact absurd rfl hGiven
  | cons c run => exact ends_cons_iff.mpr (hOut c List.mem_cons_self)

/- A run is taken off the text that follows it. -/
theorem takeWhile_append
    (hRun : ∀ c ∈ run, p c = true)
    (hEnds : Ends p rest) :
    (run ++ rest).takeWhile p = run := by
  rw [List.takeWhile_append_of_pos hRun]
  cases rest with
  | nil => simp
  | cons c rest =>
      rw [ends_cons_iff] at hEnds
      simp [hEnds]

/- What follows a run is left when the run is taken off. -/
theorem dropWhile_append
    (hRun : ∀ c ∈ run, p c = true)
    (hEnds : Ends p rest) :
    (run ++ rest).dropWhile p = rest := by
  rw [List.dropWhile_append_of_pos hRun]
  cases rest with
  | nil => rfl
  | cons c rest =>
      rw [ends_cons_iff] at hEnds
      simp [hEnds]

end Runs

------------------------------------------------------------
-- Numerals
------------------------------------------------------------

namespace Digits

variable {cs : List Char} {n : Nat}

/- A digit has its value in base ten. -/
theorem digitValue?_of_isDigit
    {c : Char}
    (hDigit : isDigit c = true) :
    digitValue? 10 c = some (c.toNat - 48) := by
  have hBounds := hDigit
  simp only [isDigit, Bool.and_eq_true, decide_eq_true_eq,
    Char.le_def, UInt32.le_iff_toNat_le] at hBounds
  have hSmall : c.toNat - 48 < 10 := by
    change c.val.toNat - 48 < 10
    have hLast : ('9' : Char).val.toNat = 57 := by rfl
    omega
  unfold isDigit at hDigit
  simp [digitValue?, hDigit, hSmall]

/- Digits extend a value as they do in base ten. -/
theorem extend?_of_digits
    (hDigits : ∀ c ∈ cs, isDigit c = true)
    (n : Nat) :
    extend? 10 n cs =
      some (cs.foldl (fun n c => 10 * n + (c.toNat - 48)) n) := by
  induction cs generalizing n with
  | nil => rfl
  | cons c cs ih =>
      rw [List.forall_mem_cons] at hDigits
      simp [extend?, digitValue?_of_isDigit hDigits.1,
        ih hDigits.2]

theorem ne_sign_of_isDigit
    {c : Char}
    (hDigit : isDigit c = true) :
    c ≠ '+' ∧ c ≠ '-' :=
  ⟨ne_of_class hDigit (by decide), ne_of_class hDigit (by decide)⟩

theorem readNat?_of_digits
    (hGiven : cs ≠ [])
    (hDigits : ∀ c ∈ cs, isDigit c = true) :
    readNat? 10 cs = some (value cs) := by
  cases cs with
  | nil => exact absurd rfl hGiven
  | cons c cs => exact extend?_of_digits hDigits 0

theorem readUnsigned?_of_digits
    (hGiven : cs ≠ [])
    (hDigits : ∀ c ∈ cs, isDigit c = true) :
    readUnsigned? 10 cs = some (value cs) := by
  have hRead := readNat?_of_digits hGiven hDigits
  unfold readUnsigned?
  split
  · exact absurd rfl
      (ne_sign_of_isDigit (hDigits '+' List.mem_cons_self)).1
  · exact hRead

/- A numeral without a sign is read as its value. -/
theorem readInt?_of_digits
    (hGiven : cs ≠ [])
    (hDigits : ∀ c ∈ cs, isDigit c = true) :
    readInt? 10 cs = some (value cs : Int) := by
  have hRead := readNat?_of_digits hGiven hDigits
  unfold readInt?
  split
  · exact absurd rfl
      (ne_sign_of_isDigit (hDigits '+' List.mem_cons_self)).1
  · exact absurd rfl
      (ne_sign_of_isDigit (hDigits '-' List.mem_cons_self)).2
  · rw [hRead]
    rfl

/- Only digits extend a number. -/
theorem extend?_eq_none
    {c : Char}
    (hOther : digitValue? 10 c = none)
    (hMember : c ∈ cs)
    (n : Nat) :
    extend? 10 n cs = none := by
  induction cs generalizing n with
  | nil => cases hMember
  | cons d cs ih =>
      unfold extend?
      cases hDigit : digitValue? 10 d with
      | none => rfl
      | some v =>
          rcases List.mem_cons.mp hMember with rfl | hLater
          · rw [hOther] at hDigit
            cases hDigit
          · exact ih hLater _

/- A text with another character than digits is no number. -/
theorem readNat?_eq_none
    {c : Char}
    (hOther : digitValue? 10 c = none)
    (hMember : c ∈ cs) :
    readNat? 10 cs = none := by
  cases cs with
  | nil => cases hMember
  | cons d cs => exact extend?_eq_none hOther hMember 0

/- A text with another character than signs and digits is no integer. -/
theorem readInt?_eq_none
    {c : Char}
    (hOther : digitValue? 10 c = none)
    (hSign : c ≠ '+' ∧ c ≠ '-')
    (hMember : c ∈ cs) :
    readInt? 10 cs = none := by
  unfold readInt?
  split
  · rw [readNat?_eq_none hOther
      ((List.mem_cons.mp hMember).resolve_left hSign.1)]
    rfl
  · rw [readNat?_eq_none hOther
      ((List.mem_cons.mp hMember).resolve_left hSign.2)]
    rfl
  · rw [readNat?_eq_none hOther hMember]
    rfl

/- It is no unsigned integer either. -/
theorem readUnsigned?_eq_none
    {c : Char}
    (hOther : digitValue? 10 c = none)
    (hSign : c ≠ '+')
    (hMember : c ∈ cs) :
    readUnsigned? 10 cs = none := by
  unfold readUnsigned?
  split
  · exact readNat?_eq_none hOther
      ((List.mem_cons.mp hMember).resolve_left hSign)
  · exact readNat?_eq_none hOther hMember

/- Further digits move those before them by their number. -/
theorem value_append (cs ds : List Char) :
    value (cs ++ ds) = value cs * 10 ^ ds.length + value ds := by
  induction ds using List.reverseRecOn with
  | nil => simp [value]
  | append_singleton ds d ih =>
      have hLast : ∀ es : List Char,
          value (es ++ [d]) = 10 * value es + (d.toNat - 48) := by
        intro es
        simp [value]
      rw [← List.append_assoc, hLast, hLast, ih,
        List.length_append, List.length_singleton, Nat.pow_succ,
        ← Nat.mul_assoc]
      omega

theorem value_zeros (k : Nat) :
    value (List.replicate k '0') = 0 := by
  induction k with
  | zero => rfl
  | succ k ih => exact ih

theorem value_zeros_append (k : Nat) (cs : List Char) :
    value (List.replicate k '0' ++ cs) = value cs := by
  rw [value_append, value_zeros, Nat.zero_mul, Nat.zero_add]

theorem value_append_zeros (cs : List Char) (k : Nat) :
    value (cs ++ List.replicate k '0') = value cs * 10 ^ k := by
  rw [value_append, value_zeros, List.length_replicate,
    Nat.add_zero]

theorem isDigit_of_mem_zeros
    {c : Char}
    {k : Nat}
    (hMember : c ∈ List.replicate k '0') :
    isDigit c = true := by
  rw [List.eq_of_mem_replicate hMember]
  decide

/- A numeral is read as a 64-bit number when its value is one. -/
theorem readUnsigned64?_eq_some_iff
    (hGiven : cs ≠ [])
    (hDigits : ∀ c ∈ cs, isDigit c = true) :
    readUnsigned64? cs = some n ↔ value cs = n ∧ n < Nat.pow 2 64 := by
  rw [readUnsigned64?, readUnsigned?_of_digits hGiven hDigits,
    Option.filter_eq_some_iff, Option.some.injEq]
  apply and_congr_right
  intro _
  simp [inUnsigned]

------------------------------------------------------------
-- Written Numbers
------------------------------------------------------------

theorem write_ne_nil (n : Nat) : write n ≠ [] := by
  have hPositive : 0 < (Nat.toDigits 10 n).length :=
    Nat.length_toDigits_pos
  exact List.ne_nil_of_length_pos hPositive

theorem isDigit_of_mem_write
    {c : Char}
    (hMember : c ∈ write n) :
    isDigit c = true := by
  have hDigit : c.isDigit = true :=
    Nat.isDigit_of_mem_toDigits (by decide) (by decide) hMember
  simpa [Char.isDigit, isDigit, Char.le_def] using hDigit

/- A positive number is written without zeros in front. -/
theorem head?_write_ne_zero (hPositive : 0 < n) :
    (write n).head? ≠ some '0' := by
  induction n using Nat.strongRecOn with
  | ind n ih =>
      by_cases hSingle : n < 10
      · have hDigit : write n = [n.digitChar] :=
          Nat.toDigits_of_lt_base hSingle
        simp [hDigit, Nat.digitChar_eq_zero, hPositive.ne']
      · have hDigits : write n = write (n / 10) ++ [(n % 10).digitChar] :=
          Nat.toDigits_of_base_le (by decide) (by omega)
        obtain ⟨c, cs, hFirst⟩ :=
          List.exists_cons_of_ne_nil (write_ne_nil (n / 10))
        have hHead := ih (n / 10) (by omega) (by omega)
        rw [hFirst] at hHead
        rwa [hDigits, hFirst]

theorem value_write (n : Nat) : value (write n) = n := by
  exact Nat.ofDigitChars_toDigits (by decide) (by decide)

theorem text_inj {m : Nat} : text m = text n ↔ m = n := by
  constructor
  · intro hSame
    have hDigits : write m = write n := String.ofList_injective hSame
    rw [← value_write m, hDigits, value_write]
  · rintro rfl
    rfl

/- A written integer is read back. -/
theorem readInt?_writeInt (i : Int) :
    readInt? 10 (writeInt i) = some i := by
  have hValue := value_write i.natAbs
  unfold writeInt
  split_ifs with hNegative
  · simp only [readInt?]
    rw [readNat?_of_digits (write_ne_nil _)
      fun _ => isDigit_of_mem_write, hValue]
    simp only [Option.map_some, Option.some.injEq,
      Int.ofNat_eq_natCast]
    omega
  · rw [readInt?_of_digits (write_ne_nil _)
      fun _ => isDigit_of_mem_write, hValue, Option.some.injEq]
    omega

theorem lt_pow_length_write (n : Nat) :
    n < 10 ^ (write n).length :=
  (Nat.length_toDigits_le_iff (by decide)
    Nat.length_toDigits_pos).mp (Nat.le_refl _)

/- A positive number reaches the power of its other digits. -/
theorem pow_length_write_le (hPositive : 0 < n) :
    10 ^ ((write n).length - 1) ≤ n := by
  by_contra hBelow
  have hLength : 0 < (write n).length := Nat.length_toDigits_pos
  by_cases hMore : 0 < (write n).length - 1
  · have hShorter : (write n).length ≤ (write n).length - 1 :=
      (Nat.length_toDigits_le_iff (by decide) hMore).mpr (by omega)
    omega
  · have hSingle : (write n).length - 1 = 0 := by omega
    rw [hSingle, Nat.pow_zero] at hBelow
    omega

/- Tens are written with zeros at the end. -/
theorem write_mul_pow
    (hPositive : 0 < n)
    (k : Nat) :
    write (n * 10 ^ k) = write n ++ List.replicate k '0' := by
  induction k with
  | zero => simp
  | succ k ih =>
      have hMore : 0 < n * 10 ^ k :=
        Nat.mul_pos hPositive (Nat.pow_pos (by decide))
      calc
        write (n * 10 ^ (k + 1)) = write (10 * (n * 10 ^ k) + 0) := by
          rw [Nat.pow_succ, ← Nat.mul_assoc, Nat.mul_comm, Nat.add_zero]
        _ = write (n * 10 ^ k) ++ ['0'] :=
          (Nat.toDigits_append_toDigits (by decide) hMore
            (by decide)).symm
        _ = write n ++ List.replicate (k + 1) '0' := by
          rw [ih, List.append_assoc, List.replicate_succ']

/- A written 64-bit number is read back. -/
theorem readUnsigned64?_write (hBound : n < Nat.pow 2 64) :
    readUnsigned64? (write n) = some n := by
  rw [readUnsigned64?_eq_some_iff (write_ne_nil n)
    fun _ => isDigit_of_mem_write]
  exact ⟨value_write n, hBound⟩

end Digits

end ManifestRecipes
