import Mathlib.Tactic.Linarith
import Mathlib.Tactic.Ring
import HarvardBench.Machine.Execution

/-! Subtraction of numbers of several bytes.

The lowest bytes are subtracted alone, and the higher ones with the carry of the round
before. A carry that comes out says that nothing was borrowed, and one that goes in takes
one more away. So the carry has to be complemented between two rounds, and a chain that
hands it on as it is misses the difference by an amount that its carries tell.
-/

set_option autoImplicit false

namespace HarvardBench

/-- A machine with a byte of each number in two of its registers. -/
structure Round where
  state : State
  bus : Bus
  target : Register
  source : Register
  left : Byte
  right : Byte
  stored : target ≠ .null
  holdsLeft : state.get target = left.toNat
  holdsRight : state.get source = right.toNat

namespace Round

def number : List Int → Int
  | [] => 0
  | low :: higher => low + 256 * number higher

def minuend (rounds : List Round) : Int := number (rounds.map fun round => round.left.toNat)

def subtrahend (rounds : List Round) : Int := number (rounds.map fun round => round.right.toNat)

/-- Subtract in every round with the flags of the round before, and list the byte and the
carry that each one leaves. The relay is what becomes of the carry between two rounds. -/
def subtract (relay : Bool → Bool) (chained : Bool) (flags : Flags) :
    List Round → Except State.Fault (List (Int × Bool))
  | [] => .ok []
  | round :: rounds => do
    let (after, _) ←
      (Instruction.sub round.target round.source chained).execute { round.state with flags } round.bus
    let others ← subtract relay true { after.flags with carry := relay after.flags.carry } rounds
    return (after.get round.target, after.flags.carry) :: others

/-- What the carries make of the difference. A round that borrowed owes one to the next, and
pays what the relay hands on. -/
def excess (relay : Bool → Bool) : List Bool → Int
  | [] | [_] => 0
  | carry :: next :: carries =>
    256 * ((!carry).toNat - (relay carry).toNat + excess relay (next :: carries))

/-- The results are the bytes of a value that wraps around at their number, and the last carry
says whether the value is not negative. -/
structure Represents (results : List (Int × Bool)) (count : Nat) (value : Int) : Prop where
  length : results.length = count
  bytes : ∀ result ∈ results, 0 ≤ result.1 ∧ result.1 < 256
  number : number (results.map (·.1)) = value % 256 ^ count
  carry : results.getLast?.map (·.2) = some (decide (0 ≤ value))

theorem sub_bytes (left right : Byte) (taken : Bool) :
    (Arithmetic.sub left.toNat right.toNat taken).result + right.toNat + taken.toNat =
      left.toNat + 256 * (!(Arithmetic.sub left.toNat right.toNat taken).carry).toNat := by
  have leftBound := left.isLt
  have rightBound := right.isLt
  have narrow : (right.toNat : Int) % 256 = right.toNat := by omega
  rw [Arithmetic.sub, Arithmetic.complement, narrow, Arithmetic.Outcome.ofSum]
  dsimp only
  by_cases large : 255 < (left.toNat : Int) + (255 - right.toNat) + if taken then 0 else 1
  all_goals
    simp only [large, decide_true, decide_false]
    -- The sum is at most 511, so a carry means that it exceeds a byte by 256.
    cases taken <;> simp at large ⊢ <;> omega

theorem execute_sub (round : Round) (chained : Bool) (flags : Flags) :
    ∃ after, (Instruction.sub round.target round.source chained).execute
        { round.state with flags } round.bus = .ok (after, round.bus) ∧
      0 ≤ after.get round.target ∧ after.get round.target < 256 ∧
      after.get round.target + round.right.toNat + (chained && flags.carry).toNat =
        round.left.toNat + 256 * (!after.flags.carry).toNat := by
  let outcome := Arithmetic.sub round.left.toNat round.right.toNat (chained && flags.carry)
  let settled := Instruction.settle { round.state with flags } outcome
  have difference : Instruction.differenceOf { round.state with flags } round.target round.source
      chained = outcome :=
    congrArg₂ (Arithmetic.sub · · _) round.holdsLeft round.holdsRight
  have byte : (settled.set round.target outcome.result).get round.target = outcome.result := by
    have inside : outcome.result % 256 = outcome.result := Int.emod_emod_of_dvd _ (dvd_refl _)
    rw [State.get, State.set, Registers.get_set_self _ _ round.stored, inside]
  refine ⟨settled.set round.target outcome.result, ?_, ?_⟩
  · rw [show settled = Instruction.settle _ outcome from rfl, ← difference]
    rfl
  · rw [byte]
    exact ⟨Int.emod_nonneg _ (by decide), Int.emod_lt_of_pos _ (by decide), sub_bytes ..⟩

theorem subtract_cons (relay : Bool → Bool) (chained : Bool) (flags : Flags) (round : Round)
    (rounds : List Round) :
    ∃ (byte : Int) (after : Flags), 0 ≤ byte ∧ byte < 256 ∧
      byte + round.right.toNat + (chained && flags.carry).toNat =
        round.left.toNat + 256 * (!after.carry).toNat ∧
      subtract relay chained flags (round :: rounds) =
        (subtract relay true { after with carry := relay after.carry } rounds).map
          ((byte, after.carry) :: ·) := by
  obtain ⟨after, ran, lower, upper, balance⟩ := round.execute_sub chained flags
  refine ⟨after.get round.target, after.flags, lower, upper, balance, ?_⟩
  rw [subtract, ran]
  change (subtract relay true { after.flags with carry := relay after.flags.carry } rounds >>= _) = _
  cases subtract relay true { after.flags with carry := relay after.flags.carry } rounds <;> rfl

/-- What the results of a chain and the carries in it add up to. -/
structure Balanced (relay : Bool → Bool) (taken : Bool) (rounds : List Round)
    (results : List (Int × Bool)) (carry : Bool) : Prop where
  length : results.length = rounds.length
  bytes : ∀ result ∈ results, 0 ≤ result.1 ∧ result.1 < 256
  last : results.getLast?.map (·.2) = some carry
  balance : number (results.map (·.1)) + subtrahend rounds + taken.toNat =
    minuend rounds + excess relay (results.map (·.2)) + 256 ^ rounds.length * (!carry).toNat

theorem exists_balanced (relay : Bool → Bool) (chained : Bool) (flags : Flags) (first : Round)
    (rest : List Round) :
    ∃ results carry, subtract relay chained flags (first :: rest) = .ok results ∧
      Balanced relay (chained && flags.carry) (first :: rest) results carry := by
  -- The induction is on the rounds behind the first, whose flags the first one leaves.
  induction rest generalizing chained flags first with
  | nil =>
    obtain ⟨byte, after, lower, upper, round, ran⟩ := subtract_cons relay chained flags first []
    refine ⟨[(byte, after.carry)], after.carry, ran, rfl, by simp [lower, upper], rfl, ?_⟩
    simp only [List.map, number, minuend, subtrahend, excess, List.length_cons, List.length_nil,
      zero_add, pow_one]
    linarith
  | cons second rest ih =>
    obtain ⟨byte, after, lower, upper, round, ran⟩ :=
      subtract_cons relay chained flags first (second :: rest)
    obtain ⟨results, carry, others, balanced⟩ :=
      ih true { after with carry := relay after.carry } second
    obtain ⟨next, results, rfl⟩ : ∃ next others, results = next :: others :=
      List.exists_cons_of_length_eq_add_one balanced.length
    refine ⟨(byte, after.carry) :: next :: results, carry, by rw [ran, others]; rfl, ?_, ?_, ?_, ?_⟩
    · simpa using balanced.length
    · simpa [lower, upper] using balanced.bytes
    · simpa using balanced.last
    · have rest := balanced.balance
      simp only [List.map, number, minuend, subtrahend, excess, List.length_cons, pow_succ,
        Bool.true_and] at rest ⊢
      linarith

theorem number_bounds {digits : List Int} (bytes : ∀ digit ∈ digits, 0 ≤ digit ∧ digit < 256) :
    0 ≤ number digits ∧ number digits < 256 ^ digits.length := by
  induction digits with
  | nil => decide
  | cons low higher ih =>
    obtain ⟨lowByte, higherBytes⟩ := List.forall_mem_cons.mp bytes
    have bounds := ih higherBytes
    rw [number, List.length_cons, pow_succ]
    omega

theorem Balanced.represents {relay : Bool → Bool} {taken carry : Bool} {rounds : List Round}
    {results : List (Int × Bool)} (balanced : Balanced relay taken rounds results carry) :
    Represents results rounds.length (minuend rounds - subtrahend rounds - taken.toNat +
      excess relay (results.map (·.2))) := by
  have bounds := number_bounds (List.forall_mem_map.mpr balanced.bytes)
  rw [List.length_map, balanced.length] at bounds
  -- The difference is the number written, less the full span if the last round borrowed.
  have value : minuend rounds - subtrahend rounds - taken.toNat + excess relay (results.map (·.2)) =
      number (results.map (·.1)) - 256 ^ rounds.length * (!carry).toNat := by
    linarith [balanced.balance]
  rw [value]
  refine ⟨balanced.length, balanced.bytes, ?_, ?_⟩
  · rw [Int.sub_mul_emod_self_left, Int.emod_eq_of_lt bounds.1 bounds.2]
  · rw [balanced.last]
    cases carry with
    | false => simpa using bounds.2
    | true => simpa using bounds.1

/-- A carry that is complemented between two rounds is the borrow of the next. -/
theorem excess_not (carries : List Bool) : excess (!·) carries = 0 := by
  induction carries with
  | nil => rfl
  | cons carry carries ih =>
    cases carries with
    | nil => rfl
    | cons next carries => rw [excess, ih]; ring

theorem dvd_excess (relay : Bool → Bool) (carries : List Bool) : 256 ∣ excess relay carries := by
  match carries with
  | [] | [_] => exact dvd_zero _
  | _ :: _ :: _ => exact dvd_mul_right ..

/-- A carry that is handed on as it is makes the second byte one too large or one too small. -/
theorem excess_id_emod (carry next : Bool) (carries : List Bool) :
    excess id (carry :: next :: carries) % 512 = 256 := by
  have higher := dvd_excess id (next :: carries)
  rw [excess]
  cases carry <;> simp <;> omega

theorem dvd_excess_id_iff (carries : List Bool) :
    256 ^ carries.length ∣ excess id carries ↔ carries.length ≤ 1 := by
  match carries with
  | [] | [_] => simp [excess]
  | carry :: next :: carries =>
    have odd := excess_id_emod carry next carries
    have even : (512 : Int) ∣ 256 ^ (carry :: next :: carries).length :=
      Dvd.intro_left (128 * 256 ^ carries.length) (by rw [List.length_cons, List.length_cons]; ring)
    constructor
    · intro whole
      have := even.trans whole
      omega
    · intro short
      simp at short

/-- The carry of a round that is complemented before the next one makes the difference; one
that is handed on makes it in a single byte only. -/
theorem subtract_represents (flags : Flags) (first : Round) (rest : List Round) :
    let rounds := first :: rest
    let difference := minuend rounds - subtrahend rounds
    (∃ results, subtract (!·) false flags rounds = .ok results ∧
      Represents results rounds.length difference) ∧
    ∃ results, subtract id false flags rounds = .ok results ∧
      Represents results rounds.length (difference + excess id (results.map (·.2))) ∧
      (number (results.map (·.1)) = difference % 256 ^ rounds.length ↔ rest = []) := by
  intro rounds difference
  obtain ⟨complemented, _, ran, balanced⟩ := exists_balanced (!·) false flags first rest
  obtain ⟨results, _, handedOn, kept⟩ := exists_balanced id false flags first rest
  have right := balanced.represents
  have shifted := kept.represents
  rw [Bool.false_and, Bool.toNat_false, Int.natCast_zero, sub_zero] at right shifted
  rw [excess_not, add_zero] at right
  refine ⟨⟨complemented, ran, right⟩, results, handedOn, shifted, ?_⟩
  have whole := dvd_excess_id_iff (results.map (·.2))
  rw [List.length_map, shifted.length] at whole
  rw [shifted.number, Int.emod_eq_emod_iff_emod_sub_eq_zero, ← Int.dvd_iff_emod_eq_zero,
    add_sub_cancel_left, whole, List.length_cons, Nat.succ_le_succ_iff, Nat.le_zero,
    List.length_eq_zero_iff]

def ofBytes (left right : Byte) : Round where
  state := { registers := { x := left.toNat, y := right.toNat }, callStack := [] }
  bus := { ram := ⟨#[]⟩, rom := ⟨#[]⟩ }
  target := .x
  source := .y
  left := left
  right := right
  stored := by decide
  holdsLeft := rfl
  holdsRight := rfl

/-- Two minus one in two bytes: the low bytes borrow nothing, and one more is taken from the
high ones. -/
theorem not_subtract_id_represents :
    ¬ ∀ (flags : Flags) (first : Round) (rest : List Round),
      ∃ results, subtract id false flags (first :: rest) = .ok results ∧
        Represents results (first :: rest).length
          (minuend (first :: rest) - subtrahend (first :: rest)) := by
  intro handedOn
  obtain ⟨results, ran, represented⟩ := handedOn {} (ofBytes 2 1) [ofBytes 0 0]
  have left : subtract id false {} [ofBytes 2 1, ofBytes 0 0] = .ok [(1, true), (255, false)] := rfl
  rw [left, Except.ok.injEq] at ran
  subst ran
  exact absurd represented.carry (by decide)

end Round

end HarvardBench
