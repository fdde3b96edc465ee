import Mathlib.Data.Rat.Floor
import Mathlib.Tactic.Common

/-!
# The vocabulary of the execution pipeline

The statuses, codes and causes the pipeline writes in its tables, the delays it works with, and its
arithmetic on money (`execution.types.ts`).  Money is never a float: a decimal text is converted to
an integer number of cents and back, and both directions refuse what is not exact.
-/

set_option autoImplicit false

namespace ApiScore

/-! ## Statuses and codes -/

/-- `EXECUTION_MODES`, lowest first: a transition climbs one rung at a time. -/
inductive ExecutionMode
  | disabled | simulation | sandbox | liveCanary
  deriving DecidableEq, Repr

/-- A mode column: a `varchar` that may hold a text the program does not know. -/
inductive StoredMode
  | known (mode : ExecutionMode)
  | unknown (text : String)
  deriving DecidableEq, Repr

/-- `isExecutionMode`, with the mode it recognised. -/
def StoredMode.executionMode? : StoredMode → Option ExecutionMode
  | .known mode => some mode
  | .unknown _ => none

/-- The text a mode column holds. -/
def ExecutionMode.text : ExecutionMode → String
  | .disabled => "DISABLED"
  | .simulation => "SIMULATION"
  | .sandbox => "SANDBOX"
  | .liveCanary => "LIVE_CANARY"

def StoredMode.text : StoredMode → String
  | .known mode => mode.text
  | .unknown text => text

/-- `MODE_ORDER.indexOf`. -/
def ExecutionMode.rank : ExecutionMode → Int
  | .disabled => 0
  | .simulation => 1
  | .sandbox => 2
  | .liveCanary => 3

inductive GateKey
  | g1 | g2 | g3 | g4 | g5 | g6
  deriving DecidableEq, Repr

inductive GateVerdict
  | go | noGo
  deriving DecidableEq, Repr

/-- `GATES_REQUIRED_TO_ENTER`: the gates to prove before climbing to a mode. -/
def gatesRequiredToEnter : ExecutionMode → List GateKey
  | .disabled => []
  | .simulation => [.g1, .g2]
  | .sandbox => [.g3]
  | .liveCanary => [.g4, .g5, .g6]

inductive DecisionStatus
  | rejected | eligible | orderReserved | completed
  deriving DecidableEq, Repr

inductive OrderStatus
  | reserved | submitting | accepted | rejected | unknown | settled | voided
  | reconciliationRequired
  deriving DecidableEq, Repr

inductive RejectionCode
  | noExecutableOdd | staleOdd | suspendedMarket | oddMoved | limitExceeded | controlDisabled
  | riskCheckFailed | operatorUnavailable | belowMinOdd
  deriving DecidableEq, Repr

inductive DecisionOutcome
  | won | lost | void | noResult
  deriving DecidableEq, Repr

inductive LedgerEntryType
  | reserve | release | settle | adjustment
  deriving DecidableEq, Repr

inductive StopSource
  | bootstrap | manual | automatic
  deriving DecidableEq, Repr

inductive AutoStopTrigger
  | controlUnreadable | staleOrSuspendedOdd | dailyLimitReached | operatorBalanceMismatch
  | unknownOrderTooOld | receiptMissing | reconciliationLate | operatorErrorRate
  | clockOutOfTolerance | ledgerInvariantBroken | receiptInvalid | operatorContractViolation
  deriving DecidableEq, Repr

inductive RiskLimit
  | maxStakePerBet | dailyStake | dailyLoss | openExposure | availableBalance | quoteAge
  deriving DecidableEq, Repr

inductive ReconciliationResult
  | isMatch | resolved | mismatch | missingAtOperator | missingLocally | pending
  deriving DecidableEq, Repr

inductive ReconciliationItemType
  | order | receipt | settlement | ledger | balance
  deriving DecidableEq, Repr

inductive ReconciliationSeverity
  | info | warning | critical
  deriving DecidableEq, Repr

/-- The text of a trigger in the reason of a stop. -/
def AutoStopTrigger.text : AutoStopTrigger → String
  | .controlUnreadable => "CONTROL_UNREADABLE"
  | .staleOrSuspendedOdd => "STALE_OR_SUSPENDED_ODD"
  | .dailyLimitReached => "DAILY_LIMIT_REACHED"
  | .operatorBalanceMismatch => "OPERATOR_BALANCE_MISMATCH"
  | .unknownOrderTooOld => "UNKNOWN_ORDER_TOO_OLD"
  | .receiptMissing => "RECEIPT_MISSING"
  | .reconciliationLate => "RECONCILIATION_LATE"
  | .operatorErrorRate => "OPERATOR_ERROR_RATE"
  | .clockOutOfTolerance => "CLOCK_OUT_OF_TOLERANCE"
  | .ledgerInvariantBroken => "LEDGER_INVARIANT_BROKEN"
  | .receiptInvalid => "RECEIPT_INVALID"
  | .operatorContractViolation => "OPERATOR_CONTRACT_VIOLATION"

def RiskLimit.text : RiskLimit → String
  | .maxStakePerBet => "MAX_STAKE_PER_BET"
  | .dailyStake => "DAILY_STAKE"
  | .dailyLoss => "DAILY_LOSS"
  | .openExposure => "OPEN_EXPOSURE"
  | .availableBalance => "AVAILABLE_BALANCE"
  | .quoteAge => "QUOTE_AGE"

/-! ## Delays, in milliseconds -/

def clockToleranceMs : Int := 2000
def decisionBucketMs : Int := 15 * 60 * 1000
/-- An `UNKNOWN` order the operator does not know is declared not placed only after this delay. -/
def unknownGraceMs : Int := 5 * 60 * 1000
/-- Past this age an unresolved `UNKNOWN` order stops the execution. -/
def unknownMaxAgeMs : Int := 30 * 60 * 1000
/-- An order `SUBMITTING` for longer than this is treated as ambiguous. -/
def submittingStaleMs : Int := 60 * 1000

/-! ## Numbers

A JavaScript number is a float.  A finite one is represented by its value; nothing in the pipeline
depends on the rounding of the float operations, because money is handled as integers. -/

inductive JsNumber
  | num (q : ℚ)
  | inf
  | negInf
  | nan
  deriving DecidableEq

namespace JsNumber

/-- `Number.MAX_SAFE_INTEGER`. -/
def maxSafeInteger : Int := 2 ^ 53 - 1

/-- An integer as a JavaScript number. -/
def int (n : Int) : JsNumber := .num n

/-- The value of a number for which `Number.isSafeInteger` holds. -/
def safeInteger? : JsNumber → Option Int
  | .num q => if q.den = 1 ∧ |q.num| ≤ maxSafeInteger then some q.num else none
  | _ => none

/-- `Number.isFinite`, with the value. -/
def finite? : JsNumber → Option ℚ
  | .num q => some q
  | _ => none

/-- `a >= q` for a finite `q`: false for `NaN`. -/
def geRat : JsNumber → ℚ → Bool
  | .num a, q => decide (q ≤ a)
  | .inf, _ => true
  | _, _ => false

/-- `a < q` for a finite `q`: false for `NaN`. -/
def ltRat : JsNumber → ℚ → Bool
  | .num a, q => decide (a < q)
  | .negInf, _ => true
  | _, _ => false

theorem safeInteger?_int {n : Int} (h : |n| ≤ maxSafeInteger) : (int n).safeInteger? = some n := by
  simp [int, safeInteger?, h]

end JsNumber

/-- `Number.isSafeInteger` on an integer. -/
def isSafeInteger (n : Int) : Bool := decide (|n| ≤ JsNumber.maxSafeInteger)

/-- `Math.round`: halves go up. -/
def jsRound (q : ℚ) : Int := ⌊q + 1 / 2⌋

theorem jsRound_int (n : Int) : jsRound n = n := by
  rw [jsRound, Int.floor_intCast_add, show ⌊(1 / 2 : ℚ)⌋ = 0 by norm_num, add_zero]

theorem le_jsRound {n : Int} {q : ℚ} : n ≤ jsRound q ↔ (n : ℚ) - 1 / 2 ≤ q := by
  rw [jsRound, Int.le_floor, sub_le_iff_le_add]

/-! ## Money -/

/-- The white space `String.prototype.trim` removes. -/
def isJsSpace (c : Char) : Bool :=
  c.toNat ∈ [0x9, 0xA, 0xB, 0xC, 0xD, 0x20, 0xA0, 0x1680, 0x2028, 0x2029, 0x202F, 0x205F, 0x3000,
    0xFEFF] || (0x2000 ≤ c.toNat && c.toNat ≤ 0x200A)

def jsTrim (cs : List Char) : List Char :=
  ((cs.dropWhile isJsSpace).reverse.dropWhile isJsSpace).reverse

/-- The number written by a list of decimal digits. -/
def digitsVal (cs : List Char) : Nat := cs.foldl (fun n c => 10 * n + (c.toNat - 48)) 0

/-- The unsigned amount, in cents, that `digits` or `digits.d` or `digits.dd` writes. -/
def parseUnsigned (cs : List Char) : Option Nat :=
  let units := cs.takeWhile Char.isDigit
  if units = [] then none
  else
    match cs.dropWhile Char.isDigit with
    | [] => some (digitsVal units * 100)
    | ['.', d] => if d.isDigit then some (digitsVal units * 100 + digitsVal [d] * 10) else none
    | ['.', d, e] =>
      if d.isDigit && e.isDigit then some (digitsVal units * 100 + digitsVal [d, e]) else none
    | _ => none

/-- `toCents`: the exact number of cents a decimal text denotes; `none` is its exception. -/
def toCents (value : String) : Option Int :=
  let cents? : Option Int :=
    match jsTrim value.toList with
    | '-' :: rest => (parseUnsigned rest).map fun n => -(n : Int)
    | cs => (parseUnsigned cs).map fun n => (n : Int)
  cents?.filter isSafeInteger

/-- Two digits. -/
def padTwo (n : Nat) : String := if n < 10 then "0" ++ toString n else toString n

/-- The text of a `decimal(14,2)` column, and of `fromCents`: two decimals, always. -/
def decimalText (cents : Int) : String :=
  (if cents < 0 then "-" else "") ++ toString (cents.natAbs / 100) ++ "." ++
    padTwo (cents.natAbs % 100)

/-- `fromCents`: refuses what is not a safe integer. -/
def fromCents (cents : Int) : Option String :=
  if isSafeInteger cents then some (decimalText cents) else none

/-- `winningProfitCents`: what a winning stake earns, to the nearest cent.  The odd is taken in whole
thousandths first, so the product is exact within the safe integers. -/
def winningProfitCents (stakeCents : Int) (odd : ℚ) : Int :=
  let oddMillis := jsRound (odd * 1000)
  jsRound ((stakeCents * (oddMillis - 1000) : Int) / 1000)

/-- The pattern `^\d{1,12}(\.\d{1,2})?$` of an amount received from the operator. -/
def isAmountText (value : String) : Bool :=
  let units := value.toList.takeWhile Char.isDigit
  1 ≤ units.length && units.length ≤ 12 && (parseUnsigned value.toList).isSome

example : toCents " 12.5 " = some 1250 := by decide
example : toCents "-0.07" = some (-7) := by decide
example : toCents "1.005" = none := by decide
example : isAmountText "0.10" = true := by decide

/-- `SHA-256` in lower-case hexadecimal: the pattern `^[0-9a-f]{64}$`. -/
def isHashText (value : String) : Bool :=
  value.toList.length == 64 && value.toList.all fun c => c.isDigit || ('a' ≤ c && c ≤ 'f')

/-- `text.slice(0, 255)`: the longest reason a column holds. -/
def slice255 (text : String) : String := String.ofList (text.toList.take 255)

end ApiScore
