import DeviceAllocation.Json.Printer
import DeviceAllocation.Proofs.DeviceId

namespace DeviceAllocation

/-! ### Texts of printing characters -/

/-- A text of printing ASCII characters. -/
def IsPlain (text : List Char) : Prop :=
  ∀ c ∈ text, 0x20 ≤ c.toNat ∧ c.toNat < 0x7f

instance (text : List Char) : Decidable (IsPlain text) :=
  List.decidableBAll (fun c : Char => 0x20 ≤ c.toNat ∧ c.toNat < 0x7f) text

namespace IsPlain

variable {first second text : List Char} {c : Char}

theorem append (hfirst : IsPlain first) (hsecond : IsPlain second) : IsPlain (first ++ second) :=
  List.forall_mem_append.mpr ⟨hfirst, hsecond⟩

theorem cons (hc : IsPlain [c]) (htext : IsPlain text) : IsPlain (c :: text) :=
  hc.append htext

theorem of_subset (htext : IsPlain text) (hsubset : first ⊆ text) : IsPlain first :=
  fun c hc => htext c (hsubset hc)

theorem replicate (hc : IsPlain [c]) (n : ℕ) : IsPlain (List.replicate n c) := by
  intro d hd
  rw [List.eq_of_mem_replicate hd]
  exact hc c (List.mem_singleton_self c)

theorem flatMap {α : Type} {xs : List α} {f : α → List Char} (h : ∀ x ∈ xs, IsPlain (f x)) :
    IsPlain (xs.flatMap f) := by
  intro c hc
  obtain ⟨x, hx, hc⟩ := List.mem_flatMap.mp hc
  exact h x hx c hc

theorem intercalate {parts : List (List Char)} (htext : IsPlain text)
    (hparts : ∀ part ∈ parts, IsPlain part) : IsPlain (text.intercalate parts) := by
  induction parts with
  | nil => exact fun c hc => by cases hc
  | cons part parts ih =>
    obtain ⟨hpart, hrest⟩ := List.forall_mem_cons.mp hparts
    cases parts with
    | nil =>
      rw [List.intercalate_singleton]
      exact hpart
    | cons next parts =>
      rw [List.intercalate_cons_cons]
      exact (hpart.append htext).append (ih hrest)

end IsPlain

/-! ### Numbers -/

theorem isPlain_digitChar (n : ℕ) : IsPlain [n.digitChar] := by
  have hdigits : ∀ n < 16, IsPlain [n.digitChar] := by decide
  by_cases hn : n < 16
  · exact hdigits n hn
  · rw [Nat.digitChar_eq_star.mpr (Nat.le_of_not_lt hn)]
    decide

theorem isPlain_toDigits {base : ℕ} (hbase : 1 < base) (n : ℕ) :
    IsPlain (Nat.toDigits base n) := by
  induction n using Nat.strongRecOn with
  | ind n ih =>
    by_cases hn : n < base
    · rw [Nat.toDigits_of_lt_base hn]
      exact isPlain_digitChar n
    · have hle : base ≤ n := Nat.le_of_not_lt hn
      rw [Nat.toDigits_of_base_le hbase hle]
      have hless : n / base < n := Nat.div_lt_self (Nat.lt_of_lt_of_le (by omega) hle) hbase
      exact (ih _ hless).append (isPlain_digitChar _)

theorem isPlain_decimal (n : ℕ) : IsPlain (Nat.toDigits 10 n) := isPlain_toDigits (by decide) n

theorem isPlain_toString (n : ℤ) : IsPlain (toString n).toList := by
  rw [DeviceId.toList_toString_int]
  split
  · exact isPlain_decimal _
  · exact .cons (by decide) (isPlain_decimal _)

theorem isPlain_hexadecimal (width n : ℕ) : IsPlain (Text.hexadecimal width n) :=
  (IsPlain.replicate (by decide) _).append (isPlain_toDigits (by decide) n)

namespace Binary64

theorem stripZeros_subset (digits : List Char) : stripZeros digits ⊆ digits := by
  intro c hc
  have hc := List.dropWhile_subset _ (List.mem_reverse.mp hc)
  exact List.mem_reverse.mp hc

theorem isPlain_shortestDigits (mantissa : ℕ) (exponent : ℤ) :
    IsPlain (shortestDigits mantissa exponent).digits :=
  (isPlain_decimal _).of_subset (stripZeros_subset _)

theorem isPlain_zeros (n : ℤ) : IsPlain (zeros n) := .replicate (by decide) _

theorem isPlain_exponentText (exponent : ℤ) : IsPlain (exponentText 'e' exponent) := by
  have hdigits := (isPlain_zeros (2 - (Nat.toDigits 10 exponent.natAbs).length)).append
    (isPlain_decimal exponent.natAbs)
  have hsign : IsPlain [if exponent < 0 then '-' else '+'] := by
    split
    · decide
    · decide
  exact .cons (by decide) (hsign.cons hdigits)

variable {x : DecimalDigits}

theorem isPlain_positional (hx : IsPlain x.digits) : IsPlain (positional x) := by
  rw [positional]
  split
  · exact .cons (by decide) (.cons (by decide) ((isPlain_zeros _).append hx))
  · split
    · exact (hx.append (isPlain_zeros _)).append (by decide)
    · exact (hx.of_subset (List.take_subset _ _)).append
        (.cons (by decide) (hx.of_subset (List.drop_subset _ _)))

theorem isPlain_scientific (hx : IsPlain x.digits) : IsPlain (scientific 'e' false x) := by
  have hpoint : IsPlain (if false || 1 < x.digits.length then ['.'] else []) := by
    split
    · decide
    · decide
  exact (((hx.of_subset (List.take_subset _ _)).append hpoint).append
    (hx.of_subset (List.drop_subset _ _))).append (isPlain_exponentText _)

theorem isPlain_shortestText (mantissa : ℕ) (exponent : ℤ) :
    IsPlain (shortestText mantissa exponent) := by
  have hdigits := isPlain_shortestDigits mantissa exponent
  rw [shortestText]
  split
  · decide
  · dsimp only
    split
    · exact isPlain_positional hdigits
    · exact isPlain_scientific hdigits

end Binary64

/-! ### JSON -/

namespace Json

theorem isPlain_escapeUnit (unit : ℕ) : IsPlain (escapeUnit unit) :=
  .cons (by decide) (.cons (by decide) (isPlain_hexadecimal 4 unit))

theorem isPlain_escapeChar (c : Char) : IsPlain (escapeChar c) := by
  unfold escapeChar
  split_ifs with hquote hbackslash hline hreturn htab hback hfeed
  · decide
  · decide
  · decide
  · decide
  · decide
  · decide
  · decide
  · dsimp only
    split_ifs with hprinting hunit
    · intro d hd
      rw [List.mem_singleton.mp hd]
      exact hprinting
    · exact isPlain_escapeUnit _
    · exact (isPlain_escapeUnit _).append (isPlain_escapeUnit _)

theorem isPlain_writeText (text : String) : IsPlain (writeText text).toList := by
  rw [writeText, String.toList_ofList]
  have hchars : IsPlain (text.toList.flatMap escapeChar) := .flatMap fun c _ => isPlain_escapeChar c
  exact .cons (by decide) (hchars.append (by decide))

theorem isPlain_writeBrokenText (points : List ℕ) : IsPlain (writeBrokenText points).toList := by
  rw [writeBrokenText, String.toList_ofList]
  have hpoint (point : ℕ) : IsPlain (escapePoint point) := by
    rw [escapePoint]
    split
    · exact isPlain_escapeChar _
    · exact isPlain_escapeUnit _
  have hpoints : IsPlain (points.flatMap escapePoint) := .flatMap fun point _ => hpoint point
  exact .cons (by decide) (hpoints.append (by decide))

theorem isPlain_real (value : Binary64) :
    IsPlain (value.signed Binary64.shortestText "Infinity" "NaN").toList := by
  cases value with
  | finite negative mantissa exponent =>
    rw [Binary64.signed, String.toList_ofList]
    refine IsPlain.append ?_ (Binary64.isPlain_shortestText mantissa exponent)
    cases negative with
    | true => decide
    | false => decide
  | infinite negative =>
    cases negative with
    | true => decide
    | false => decide
  | notANumber => decide

theorem isPlain_enclosed {parts : List String} {opening closing : String}
    (hopening : IsPlain opening.toList) (hparts : ∀ part ∈ parts, IsPlain part.toList)
    (hclosing : IsPlain closing.toList) :
    IsPlain (opening ++ ", ".intercalate parts ++ closing).toList := by
  rw [String.toList_append, String.toList_append, String.toList_intercalate]
  have hinner : IsPlain (", ".toList.intercalate (parts.map String.toList)) := by
    refine .intercalate (by decide) fun part hpart => ?_
    obtain ⟨text, htext, rfl⟩ := List.mem_map.mp hpart
    exact hparts text htext
  exact (hopening.append hinner).append hclosing

mutual

theorem isPlain_write : ∀ value : Json, IsPlain (write value).toList
  | .null => by decide
  | .bool true => by decide
  | .bool false => by decide
  | .int value => isPlain_toString value
  | .real value => isPlain_real value
  | .text value => isPlain_writeText value
  | .brokenText points => isPlain_writeBrokenText points
  | .list items => isPlain_enclosed (by decide) (isPlain_printItems items) (by decide)
  | .object fields => isPlain_enclosed (by decide) (isPlain_printFields fields) (by decide)

theorem isPlain_printItems : ∀ items : List Json, ∀ part ∈ printItems jsonSpelling items,
    IsPlain part.toList
  | [], part, hpart => by cases hpart
  | item :: items, part, hpart => by
    rw [printItems] at hpart
    rcases List.mem_cons.mp hpart with rfl | hpart
    · exact isPlain_write item
    · exact isPlain_printItems items part hpart

theorem isPlain_printFields : ∀ fields : List (String × Json),
    ∀ part ∈ printFields jsonSpelling fields, IsPlain part.toList
  | [], part, hpart => by cases hpart
  | (name, value) :: fields, part, hpart => by
    rw [printFields] at hpart
    rcases List.mem_cons.mp hpart with rfl | hpart
    · rw [String.toList_append, String.toList_append]
      exact ((isPlain_writeText name).append (by decide)).append (isPlain_write value)
    · exact isPlain_printFields fields part hpart

end

end Json

end DeviceAllocation
