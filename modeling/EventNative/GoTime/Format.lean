import EventNative.GoTime.Calendar
import Mathlib.Data.Nat.Digits

/-!
# `Time.Format` on numeric layouts

`Format` splits a layout into chunks, the way Go's `nextStdChunk` scans it, and
prints each standard chunk from the local date and clock; any other character
is copied. Only the numeric date and clock chunks are modelled: month and
weekday names, `PM`, zones, fractional seconds and underscore padding are not,
and none of the layouts here uses them.
-/

namespace EventNative.GoTime

/-- A piece of a layout. -/
inductive Chunk
  | lit (c : Char)
  | longYear
  | year
  | numMonth
  | zeroMonth
  | day
  | zeroDay
  | hour
  | hour12
  | zeroHour12
  | minute
  | zeroMinute
  | second
  | zeroSecond
deriving DecidableEq

/-- The chunks of a layout, in the order `nextStdChunk` finds them. -/
def layoutChunks : List Char → List Chunk
  | '2' :: '0' :: '0' :: '6' :: rest => .longYear :: layoutChunks rest
  | '2' :: rest => .day :: layoutChunks rest
  | '0' :: '1' :: rest => .zeroMonth :: layoutChunks rest
  | '0' :: '2' :: rest => .zeroDay :: layoutChunks rest
  | '0' :: '3' :: rest => .zeroHour12 :: layoutChunks rest
  | '0' :: '4' :: rest => .zeroMinute :: layoutChunks rest
  | '0' :: '5' :: rest => .zeroSecond :: layoutChunks rest
  | '0' :: '6' :: rest => .year :: layoutChunks rest
  | '1' :: '5' :: rest => .hour :: layoutChunks rest
  | '1' :: rest => .numMonth :: layoutChunks rest
  | '3' :: rest => .hour12 :: layoutChunks rest
  | '4' :: rest => .minute :: layoutChunks rest
  | '5' :: rest => .second :: layoutChunks rest
  | c :: rest => .lit c :: layoutChunks rest
  | [] => []

/-- The decimal digits of a natural number. -/
def digits (n : Nat) : List Char := Nat.toDigits 10 n

/-- `appendInt(nil, x, width)`: the decimal of `x`, zero-padded to `width` digits. -/
def appendInt (x : Int) (width : Nat) : List Char :=
  let ds := digits x.natAbs
  (if x < 0 then ['-'] else []) ++ List.replicate (width - ds.length) '0' ++ ds

/-- One chunk printed for a date `(year, month, day)` and a clock `(hour, min, sec)`. -/
def Chunk.render (date clock : Int × Int × Int) : Chunk → List Char
  | .lit c => [c]
  | .longYear => appendInt date.1 4
  | .year => appendInt (date.1.tmod 100) 2
  | .numMonth => appendInt date.2.1 0
  | .zeroMonth => appendInt date.2.1 2
  | .day => appendInt date.2.2 0
  | .zeroDay => appendInt date.2.2 2
  | .hour => appendInt clock.1 2
  | .hour12 => appendInt (if clock.1 % 12 = 0 then 12 else clock.1 % 12) 0
  | .zeroHour12 => appendInt (if clock.1 % 12 = 0 then 12 else clock.1 % 12) 2
  | .minute => appendInt clock.2.1 0
  | .zeroMinute => appendInt clock.2.1 2
  | .second => appendInt clock.2.2 0
  | .zeroSecond => appendInt clock.2.2 2

/-- `t.Format(layout)`. -/
def Time.format (t : Time) (layout : String) : String :=
  String.mk ((layoutChunks layout.toList).flatMap (Chunk.render t.date t.clock))

section Decimal

/-- The number a string of decimal digits spells. -/
def decimalValue (cs : List Char) : Nat :=
  cs.foldl (fun n c => 10 * n + (c.toNat - '0'.toNat)) 0

/-- Reads back what `appendInt` writes: an optional minus sign, then decimal digits. -/
def readInt : List Char → Int
  | c :: rest => if c = '-' then -(decimalValue rest : Int) else decimalValue (c :: rest)
  | [] => 0

theorem digitChar_spec : ∀ d < 10, (Nat.digitChar d).toNat - '0'.toNat = d ∧ Nat.digitChar d ≠ '-' := by
  decide

theorem decimalValue_append_digit (cs : List Char) (c : Char) :
    decimalValue (cs ++ [c]) = 10 * decimalValue cs + (c.toNat - '0'.toNat) := by
  simp [decimalValue, List.foldl_append]

/-- Leading zeros, as `appendInt` pads with them, do not change the value. -/
theorem decimalValue_zeros (k : Nat) (cs : List Char) :
    decimalValue (List.replicate k '0' ++ cs) = decimalValue cs := by
  have hz : (List.replicate k '0').foldl (fun n c => 10 * n + (c.toNat - '0'.toNat)) 0 = 0 := by
    induction k with
    | zero => rfl
    | succ k ih => simpa [List.replicate_succ] using ih
  simp only [decimalValue, List.foldl_append, hz]

/-- With enough fuel, `toDigitsCore` prepends the digits of `n` to what it is given. -/
theorem toDigitsCore_append {fuel n : Nat} (ds : List Char) (h : n < fuel) :
    Nat.toDigitsCore 10 fuel n ds = Nat.toDigitsCore 10 fuel n [] ++ ds := by
  induction fuel generalizing n ds with
  | zero => omega
  | succ fuel ih =>
      simp only [Nat.toDigitsCore]
      split
      · rfl
      · rw [ih _ (by omega), ih [Nat.digitChar (n % 10)] (by omega), List.append_assoc]
        rfl

theorem decimalValue_toDigitsCore {fuel n : Nat} (h : n < fuel) :
    decimalValue (Nat.toDigitsCore 10 fuel n []) = n := by
  induction fuel generalizing n with
  | zero => omega
  | succ fuel ih =>
      have hd := digitChar_spec (n % 10) (Nat.mod_lt _ (by omega))
      simp only [Nat.toDigitsCore]
      split
      · simp only [decimalValue, List.foldl_cons, List.foldl_nil, hd.1]
        omega
      · rw [toDigitsCore_append _ (by omega), decimalValue_append_digit, ih (by omega), hd.1]
        omega

theorem minus_not_mem_toDigitsCore {fuel n : Nat} {ds : List Char} (h : '-' ∉ ds) :
    '-' ∉ Nat.toDigitsCore 10 fuel n ds := by
  induction fuel generalizing n ds with
  | zero => exact h
  | succ fuel ih =>
      have hd := (digitChar_spec (n % 10) (Nat.mod_lt _ (by omega))).2
      simp only [Nat.toDigitsCore]
      split
      · simpa [Ne.symm hd] using h
      · exact ih (by simpa [Ne.symm hd] using h)

theorem readInt_of_not_mem {cs : List Char} (h : '-' ∉ cs) : readInt cs = decimalValue cs := by
  cases cs with
  | nil => rfl
  | cons c cs => simp [readInt, Ne.symm (List.ne_of_not_mem_cons h)]

theorem readInt_minus (cs : List Char) : readInt ('-' :: cs) = -(decimalValue cs : Int) := by
  simp [readInt]

theorem readInt_appendInt (x : Int) (width : Nat) : readInt (appendInt x width) = x := by
  have hv := decimalValue_toDigitsCore (Nat.lt_succ_self x.natAbs)
  have hm : '-' ∉ List.replicate (width - (digits x.natAbs).length) '0' ++ digits x.natAbs := by
    simp only [List.mem_append, List.mem_replicate, digits, Nat.toDigits]
    exact fun h => h.elim (fun h => absurd h.2 (by decide)) (minus_not_mem_toDigitsCore (by simp))
  simp only [appendInt]
  split
  · rw [List.append_assoc, List.singleton_append, readInt_minus, decimalValue_zeros, digits,
      Nat.toDigits, hv]
    omega
  · rw [List.nil_append, readInt_of_not_mem hm, decimalValue_zeros, digits, Nat.toDigits, hv]
    omega

/-- `appendInt` at a fixed width never writes one text for two numbers. -/
theorem appendInt_injective (width : Nat) : Function.Injective (appendInt · width) := by
  intro x y h
  simpa only [readInt_appendInt] using congrArg readInt h

theorem appendInt_length {x : Int} {width : Nat} (h0 : 0 ≤ x) (h : x.natAbs < 10 ^ width)
    (hw : 0 < width) : (appendInt x width).length = width := by
  have := Nat.toDigitsCore_length 10 (by decide) (x.natAbs + 1) x.natAbs width h hw
  simp only [appendInt, if_neg (not_lt.mpr h0), List.nil_append, List.length_append,
    List.length_replicate, digits, Nat.toDigits]
  omega

end Decimal

end EventNative.GoTime
