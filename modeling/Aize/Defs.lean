/-
  Names, endpoints and clock texts (`kernel/defs.py`, `kernel/model.py`,
  `goal/defs.py`).

  Texts are `String`s. An instant is an `Int`: microseconds since
  1970-01-01T00:00:00Z. A time as the program stores it is a `Stamp`: its text,
  which is what gets compared when queues are sorted, and the instant this text
  parses to, if it parses.
-/
import Mathlib.Data.List.DropRight
import Mathlib.Data.String.Basic
import Mathlib.Order.Basic
import Aize.Lib.Unicode

namespace Aize

/-! ## Errors -/

/-- What an operation may raise: a `StoreError` with its text, the `KeyError` of a
    dictionary access, or the `OverflowError` of a date or a `timedelta` that is out of
    range (for `fromtimestamp` it is a `ValueError`), which nothing catches. -/
inductive Err where
  | storeError (text : String)
  | keyError (key : String)
  | overflowError
  deriving DecidableEq, Repr

/-! ## Texts -/

/-- White space of `str.strip`. -/
def isSpace (c : Char) : Bool :=
  let n := c.toNat
  (9 ≤ n && n ≤ 13) || (28 ≤ n && n ≤ 32) || n == 0x85 || n == 0xA0 || n == 0x1680 ||
    (0x2000 ≤ n && n ≤ 0x200A) || n == 0x2028 || n == 0x2029 || n == 0x202F ||
    n == 0x205F || n == 0x3000

/-- `str.strip` with a set of characters. -/
def stripChars (p : Char → Bool) (s : String) : String :=
  String.ofList ((s.toList.dropWhile p).rdropWhile p)

/-- `str.strip()`. -/
def strip (s : String) : String := stripChars isSpace s

/-- `str.isalnum` of one character. -/
def isAlnum (c : Char) : Bool := Unicode.isAlnum c

/-- `str.lower`. -/
def lower (s : String) : String := Unicode.lower s

/-- `safe_id_part`. -/
def safeIdPart (value fallback : String) : String :=
  let safe := String.ofList (value.toList.map fun c =>
    if isAlnum c || c == '-' || c == '_' then c else '-')
  let stripped := stripChars (fun c => c == '-' || c == '_') safe
  if stripped = "" then fallback else stripped

/-- `str.startswith`. -/
def startsWith (pre s : String) : Bool := pre.toList.isPrefixOf s.toList

/-- The text after the first `:`. -/
def afterColon (s : String) : String := String.ofList ((s.toList.dropWhile (· != ':')).drop 1)

theorem dropWhile_rdropWhile_dropWhile {α : Type} (p : α → Bool) (l : List α) :
    ((l.dropWhile p).rdropWhile p).dropWhile p = (l.dropWhile p).rdropWhile p := by
  cases h : (l.dropWhile p).rdropWhile p with
  | nil => rfl
  | cons a t =>
    have hpre : (a :: t) <+: l.dropWhile p := h ▸ List.rdropWhile_prefix p _
    obtain ⟨u, hu⟩ := hpre
    have ha : p a = false := by
      have := List.head_dropWhile_not p (l := l) (by rw [← hu]; simp)
      simpa [← hu] using this
    rw [List.dropWhile_cons_of_neg (by simp [ha])]

@[simp] theorem strip_strip (s : String) : strip (strip s) = strip s := by
  unfold strip stripChars
  rw [String.toList_ofList, dropWhile_rdropWhile_dropWhile, List.rdropWhile_idempotent]

/-! ## Clock texts -/

/-- `n` seconds, in microseconds. -/
def seconds (n : Int) : Int := n * 1000000

/-- The first and the last instant that a `datetime` can hold. -/
def minInstant : Int := -62135596800000000

def maxInstant : Int := 253402300799999999

def Representable (t : Int) : Prop := minInstant ≤ t ∧ t ≤ maxInstant

instance (t : Int) : Decidable (Representable t) := by unfold Representable; infer_instance

/-- What `astimezone(UTC)`, `fromtimestamp` and the sums of dates make of an instant:
    an error if it is out of range. -/
def toDatetime (t : Int) : Except Err Int :=
  if Representable t then .ok t else .error .overflowError

theorem toDatetime_eq_ok {t u : Int} : toDatetime t = .ok u ↔ Representable t ∧ t = u := by
  unfold toDatetime
  split_ifs with h <;> simp [h]

/-- `replace(microsecond=0)`. -/
def floorSecond (t : Int) : Int := t / 1000000 * 1000000

/-- Decimal digits, padded with zeros to `width`. -/
def padded (width : Nat) (n : Int) : String :=
  let digits := toString n.toNat
  String.ofList (List.replicate (width - digits.length) '0') ++ digits

/-- Year, month and day of a number of days since the epoch (proleptic
    Gregorian calendar, counted from 1 March of year 0). -/
def civil (days : Int) : Int × Int × Int :=
  let z := days + 719468
  let era := z / 146097
  let doe := z % 146097
  let yoe := (doe - doe / 1460 + doe / 36524 - doe / 146096) / 365
  let doy := doe - (365 * yoe + yoe / 4 - yoe / 100)
  let mp := (5 * doy + 2) / 153
  let m := if mp < 10 then mp + 3 else mp - 9
  (yoe + era * 400 + (if m ≤ 2 then 1 else 0), m, doy - (153 * mp + 2) / 5 + 1)

/-- `isoformat` of a whole second in UTC, with `Z` for the offset. -/
def isoformat (t : Int) : String :=
  let secs := t / 1000000
  let (y, m, d) := civil (secs / 86400)
  let r := secs % 86400
  padded 4 y ++ "-" ++ padded 2 m ++ "-" ++ padded 2 d ++ "T" ++
    padded 2 (r / 3600) ++ ":" ++ padded 2 (r % 3600 / 60) ++ ":" ++ padded 2 (r % 60) ++ "Z"

example : isoformat (seconds 1767225600) = "2026-01-01T00:00:00Z" := by decide

/-- A timestamp: its text and what `datetime.fromisoformat` makes of it. An
    absent one is the empty text. -/
structure Stamp where
  text : String
  instant : Option Int
  deriving DecidableEq, Repr

namespace Stamp

def absent : Stamp := ⟨"", none⟩

/-- The text of a whole second, as `utc_now` and `_format_utc` write it. -/
def ofInstant (t : Int) : Stamp := ⟨isoformat (floorSecond t), some (floorSecond t)⟩

def isAbsent (s : Stamp) : Bool := s.text = ""

/-- `_parse_utc`. -/
def parseUtc (s : Stamp) : Except Err Int :=
  match s.instant with
  | some t => toDatetime t
  | none => .error (.storeError s!"invalid UTC timestamp: {s.text}")

theorem parseUtc_eq_ok {s : Stamp} {t : Int} :
    s.parseUtc = .ok t ↔ s.instant = some t ∧ Representable t := by
  unfold parseUtc
  cases s.instant with
  | none => simp
  | some u =>
    rw [toDatetime_eq_ok, Option.some.injEq]
    exact ⟨fun ⟨h, heq⟩ => ⟨heq, heq ▸ h⟩, fun ⟨heq, h⟩ => ⟨heq ▸ h, heq⟩⟩

/-- `str.strip` of the text; the instant is that of the stripped text. -/
def strip (s : Stamp) : Stamp := { s with text := Aize.strip s.text }

@[simp] theorem strip_strip (s : Stamp) : s.strip.strip = s.strip := by simp [strip]

@[simp] theorem strip_instant (s : Stamp) : s.strip.instant = s.instant := rfl

@[simp] theorem ofInstant_instant (t : Int) : (ofInstant t).instant = some (floorSecond t) :=
  rfl

end Stamp

@[simp] theorem floorSecond_floorSecond (t : Int) :
    floorSecond (floorSecond t) = floorSecond t := by
  unfold floorSecond; omega

/-- A `datetime` holds an instant if and only if it holds its second. -/
theorem representable_floorSecond {t : Int} : Representable (floorSecond t) ↔ Representable t := by
  unfold Representable minInstant maxInstant floorSecond
  omega

theorem floorSecond_le (t : Int) : floorSecond t ≤ t := by unfold floorSecond; omega

/-! ## Roles -/

/-- The two agent roles of a Session. -/
inductive Role where
  | goalManager
  | workerAgent
  deriving DecidableEq, Repr

namespace Role

def token : Role → String
  | goalManager => "GoalManager"
  | workerAgent => "WorkerAgent"

/-- `slot_group_name`. -/
def slotGroup : Role → String
  | goalManager => "manage"
  | workerAgent => "work"

/-- The roles, in the order the program goes through them. -/
def all : List Role := [goalManager, workerAgent]

end Role

/-- `ROLE_ALIASES`. -/
def roleAlias (token : String) : Option Role :=
  if token = "goalmanager" ∨ token = "manage" then some .goalManager
  else if token = "workeragent" ∨ token = "worker" ∨ token = "work" then some .workerAgent
  else none

/-- `normalize_agent_role`, with `none` for a token that names no agent role. -/
def normalizeAgentRole (role : String) : Option Role :=
  let normalized := strip role
  if normalized = Role.goalManager.token then some .goalManager
  else if normalized = Role.workerAgent.token then some .workerAgent
  else match roleAlias normalized with
    | some r => some r
    | none => roleAlias (lower normalized)

/-! ## Endpoints -/

def rootUnitId : String := "root"
def rootSessionId : String := "root"
def rootUsername : String := "root"
def sessionRecipient : String := "Session"
def userConsoleRecipient : String := "UserConsole"

def sessionEndpoint (sessionId : String) : String := "session:" ++ sessionId
def userEndpoint (username : String) : String := "user:" ++ username
def accountEndpoint (username : String) : String := "account:" ++ username
def consoleEndpoint (endpointId : String) : String := "console:" ++ endpointId
def nodeEndpoint (nodeId : String) : String := "node:" ++ nodeId
def agentEndpoint (role : Role) : String := "agent:" ++ role.token

def canonicalEndpoint (endpoint : String) : String :=
  let raw := strip endpoint
  if startsWith "account:" raw then userEndpoint (afterColon raw) else raw

def legacyEndpointAlias (endpoint : String) : String :=
  let raw := strip endpoint
  if startsWith "user:" raw then accountEndpoint (afterColon raw) else raw

/-- `kernel.defs.normalize_endpoint` within a Session. -/
def normalizeSystemEndpoint (value sessionId : String) : String :=
  let raw := strip value
  if raw = "" then "system"
  else if startsWith "account:" raw then userEndpoint (afterColon raw)
  else if raw.toList.contains ':' || raw = "system" || raw = "dispatcher" then raw
  else if raw = sessionRecipient then sessionEndpoint sessionId
  else if raw = userConsoleRecipient then userConsoleRecipient
  else if raw = "remote-aize" then nodeEndpoint "remote-aize"
  else userEndpoint raw

/-- `goal.defs.normalize_endpoint` within a Session. -/
def normalizeEndpoint (value sessionId : String) : String :=
  let raw := strip value
  if raw = Role.goalManager.token then agentEndpoint .goalManager
  else if raw = Role.workerAgent.token then agentEndpoint .workerAgent
  else match roleAlias raw with
    | some r => agentEndpoint r
    | none => normalizeSystemEndpoint raw sessionId

/-- `agent_sender_endpoint`. -/
def agentSenderEndpoint (role : Role) (account : String) : String :=
  let normalized := strip account
  if normalized = "" then agentEndpoint role else userEndpoint normalized

def accountHomeSessionId (username : String) : String :=
  "account-" ++ safeIdPart (strip username) "user"

def accountHomeUnitId (username : String) : String := accountHomeSessionId username

/-! ## Constants -/

def defaultAgentProvider : String := "codex"
def agentExecutionTimeoutSeconds : Int := 600
def dispatchLeaseRecoverySeconds : Int := agentExecutionTimeoutSeconds + 60

/-- A provider that is registered as a non-login service user. -/
structure ProviderAccount where
  provider : String
  account : String
  groups : List String

/-- `PROVIDER_SERVICE_ACCOUNTS`, by provider name. -/
def providerServiceAccounts : List ProviderAccount :=
  [⟨"claude", "svc-claude", ["manage", "work"]⟩,
   ⟨"codex", "svc-codex", ["manage", "work"]⟩,
   ⟨"remote-aize", "svc-remote-aize", ["work"]⟩]

/-- What the outside world shows to one operation: the time, and which
    providers can execute. The clock is not within a lease's length of the last
    date, so that the times computed from it are dates. -/
structure Env where
  time : Int
  providerIsAvailable : String → Bool
  from_min : minInstant ≤ time
  to_max : time + seconds dispatchLeaseRecoverySeconds ≤ maxInstant

namespace Env

/-- `utc_now`. -/
def utcNow (env : Env) : Stamp := .ofInstant env.time

/-- The instant of `utc_now`. -/
def now (env : Env) : Int := floorSecond env.time

@[simp] theorem utcNow_instant (env : Env) : env.utcNow.instant = some env.now := rfl

theorem now_representable (env : Env) : Representable env.now := by
  refine representable_floorSecond.2 ⟨env.from_min, le_trans ?_ env.to_max⟩
  unfold seconds dispatchLeaseRecoverySeconds agentExecutionTimeoutSeconds
  omega

@[simp] theorem utcNow_parseUtc (env : Env) : env.utcNow.parseUtc = .ok env.now :=
  Stamp.parseUtc_eq_ok.2 ⟨rfl, env.now_representable⟩

end Env

end Aize
