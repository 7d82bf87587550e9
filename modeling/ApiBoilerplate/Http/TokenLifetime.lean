import ApiBoilerplate.Http.Auth
import ApiBoilerplate.UuidText
import Mathlib.Data.Int.DivMod

/-!
# How long a token is good for

Issuing a token and verifying it, each with a reading of the clock of its own. How a
token is signed and opened is left open; the arithmetic of its expiry and the check
of it are written out.
-/

namespace ApiBoilerplate.Http

/-- In nanoseconds, as clocks are read; a reading is a number of them since the epoch. -/
def second : Nat := 1000000000

/-- The configuration with what only issuing reads. -/
structure TokenConfig extends AuthConfig where
  jwtExpiryHours : UInt64
  deriving DecidableEq, Repr

/-- `DateTime::<Utc>::MIN_UTC`, in nanoseconds. -/
def minUtc : Int := -8334601228800000000000

/-- `DateTime::<Utc>::MAX_UTC`. -/
def maxUtc : Int := 8210266876799999999999

/-- The longest duration, in seconds: `i64::MAX` milliseconds. -/
def maxDuration : Int := 9223372036854775

/-- `Duration::hours`, in seconds; a duration out of range is a panic. -/
def hours (n : Int) : Except String Int :=
  if -maxDuration ≤ 3600 * n ∧ 3600 * n ≤ maxDuration then .ok (3600 * n)
  else .error "TimeDelta::hours out of bounds"

/-- `DateTime::checked_add_signed` -/
def checkedAddSigned (t seconds : Int) : Option Int :=
  if minUtc ≤ t + seconds * second ∧ t + seconds * second ≤ maxUtc then
    some (t + seconds * second)
  else none

/-- `as usize` on a 64-bit platform. -/
def asUsize (n : Int) : Nat := (n % 2 ^ 64).toNat

/-- What `jsonwebtoken` does with HS256: it makes a token of claims under a secret, and
opens a token, up to the validation of its claims. -/
structure Jwt where
  encode : Claims → String → Except String String
  openToken : String → String → Except String Claims

/-- The fields of a `Validation` that the check of `exp` reads. -/
structure Validation where
  leeway : Nat
  deriving DecidableEq, Repr

def Validation.new : Validation := ⟨60⟩

/-- `exp` is compared with the clock in whole seconds. -/
def Validation.expired (validation : Validation) (now : Nat) (exp : Nat) : Bool :=
  exp + validation.leeway < now / second

def Jwt.decode (jwt : Jwt) (validation : Validation) (now : Nat) (token secret : String) :
    Except String Claims :=
  match jwt.openToken token secret with
  | .error e => .error e
  | .ok claims =>
    if validation.expired now claims.exp then .error "ExpiredSignature" else .ok claims

/-- The verification of tokens at an instant. -/
def Jwt.readerAt (jwt : Jwt) (now : Nat) : TokenReader :=
  ⟨jwt.decode .new now, Uuid.parseStr⟩

/-- The expiry that `generate_token` computes; an error is the message of a panic. -/
def expiration (now : Nat) (jwtExpiryHours : UInt64) : Except String Nat :=
  match hours jwtExpiryHours.toInt64.toInt with
  | .error panic => .error panic
  | .ok duration =>
    match checkedAddSigned now duration with
    | none => .error "valid timestamp"
    | some t => .ok (asUsize (t / second))

/-- `generate_token`, or the message of its panic. -/
def generateToken (jwt : Jwt) (now : Nat) (userId : Uuid) (email : String)
    (cfg : TokenConfig) : Except String (Except AppError String) :=
  (expiration now cfg.jwtExpiryHours).map fun exp =>
    (jwt.encode ⟨userId.hyphenated, email, exp⟩ cfg.jwtSecret).mapError fun e =>
      .internal ("Token generation failed: " ++ e)

section Expiration
variable {now : Nat} {h : UInt64}

theorem toInt64_of_lt (small : h.toNat < 2 ^ 63) : h.toInt64.toInt = h.toNat := by
  change h.toBitVec.toInt = _
  rw [BitVec.toInt_eq_toNat_of_lt]
  · rfl
  · change 2 * h.toNat < 2 ^ 64
    omega

theorem hours_ok {n duration : Int} (computed : hours n = .ok duration) :
    duration = 3600 * n := by
  unfold hours at computed
  split at computed
  · exact (Except.ok.inj computed).symm
  · cases computed

theorem checkedAddSigned_some {t seconds sum : Int}
    (added : checkedAddSigned t seconds = some sum) :
    sum = t + seconds * second ∧ t + seconds * second ≤ maxUtc := by
  unfold checkedAddSigned at added
  split at added
  · rename_i within
    exact ⟨(Option.some.inj added).symm, within.2⟩
  · cases added

theorem expiration_of {duration t : Int} (computed : hours h.toInt64.toInt = .ok duration)
    (added : checkedAddSigned now duration = some t) :
    expiration now h = .ok (asUsize (t / second)) := by
  simp only [expiration, computed, added]

theorem asUsize_lt (n : Int) : asUsize n < 2 ^ 64 := by
  unfold asUsize
  omega

theorem lt_of_representable (representable : (now : Int) + 3600 * h.toNat * second ≤ maxUtc) :
    h.toNat < 2 ^ 32 := by
  unfold maxUtc second at representable
  omega

/-- The expiry is the time of issue and the configured hours, as long as `chrono` has
such an instant, and not otherwise. -/
theorem expiration_iff : expiration now h = .ok (now / second + 3600 * h.toNat) ↔
    (now : Int) + 3600 * h.toNat * second ≤ maxUtc := by
  constructor
  · intro issued
    unfold expiration at issued
    split at issued
    · cases issued
    · rename_i duration computed
      split at issued
      · cases issued
      · rename_i t added
        have value := Except.ok.inj issued
        have within := asUsize_lt (t / second)
        have small : h.toNat < 2 ^ 63 := by
          have issue := Nat.zero_le (now / second)
          rw [value] at within
          omega
        obtain rfl := hours_ok computed
        rw [toInt64_of_lt small] at added
        exact (checkedAddSigned_some added).2
  · intro representable
    have small := lt_of_representable representable
    have duration : hours h.toInt64.toInt = .ok (3600 * h.toNat) := by
      rw [toInt64_of_lt (by omega), hours]
      refine if_pos ?_
      unfold maxDuration
      omega
    have added : checkedAddSigned now (3600 * h.toNat) = some (now + 3600 * h.toNat * second) := by
      rw [checkedAddSigned]
      refine if_pos ⟨?_, representable⟩
      unfold minUtc second
      omega
    rw [expiration_of duration added]
    refine congrArg Except.ok ?_
    unfold asUsize
    unfold maxUtc second at representable
    unfold second
    omega

end Expiration

/-- A library opens the tokens it makes. -/
def Jwt.Opens (jwt : Jwt) (claims : Claims) (secret : String) : Prop :=
  ∃ token, jwt.encode claims secret = .ok token ∧ jwt.openToken token secret = .ok claims

/-- A token is issued for the configured hours from `now` on. It is verified, with the
same subject and email, at the instants `good` for its expiry, and refused at the
instants `bad` for it. -/
def Lives (jwt : Jwt) (cfg : TokenConfig) (userId : Uuid) (email : String) (now : Nat)
    (good bad : Nat → Nat → Prop) : Prop :=
  let exp := now / second + 3600 * cfg.jwtExpiryHours.toNat
  ∃ token, generateToken jwt now userId email cfg = .ok (.ok token) ∧
    (∀ t, good exp t → verifyToken (jwt.readerAt t) token cfg.toAuthConfig =
      .ok ⟨userId.hyphenated, email, exp⟩) ∧
    ∀ t, bad exp t → ∃ e, verifyToken (jwt.readerAt t) token cfg.toAuthConfig = .error e

section Lifetime
variable {jwt : Jwt} {cfg : TokenConfig} {userId : Uuid} {email : String} {now : Nat}

/-- A token is verified until the leeway after its expiry has passed. -/
theorem verifyToken_opened (cfg : TokenConfig) {token : String} {claims : Claims}
    (opened : jwt.openToken token cfg.jwtSecret = .ok claims) (t : Nat) :
    verifyToken (jwt.readerAt t) token cfg.toAuthConfig =
      if claims.exp + 60 < t / second then .error (.unauthorized "Invalid or expired token")
      else .ok claims := by
  rw [verifyToken]
  simp only [Jwt.readerAt, Jwt.decode, opened, Validation.expired, Validation.new,
    decide_eq_true_eq]
  split <;> rfl

theorem generateToken_encoded {token : String}
    (encoded : jwt.encode ⟨userId.hyphenated, email, now / second + 3600 * cfg.jwtExpiryHours.toNat⟩
      cfg.jwtSecret = .ok token)
    (representable : (now : Int) + 3600 * cfg.jwtExpiryHours.toNat * second ≤ maxUtc) :
    generateToken jwt now userId email cfg = .ok (.ok token) := by
  rw [generateToken, expiration_iff.mpr representable]
  simp only [Except.map, encoded, Except.mapError]

/-- A token lives for the configured hours and the leeway of a minute, as long as `chrono`
has the instant of its expiry. -/
theorem token_lifetime (jwt : Jwt) (cfg : TokenConfig) (userId : Uuid) (email : String)
    (now : Nat)
    (opens : jwt.Opens
      ⟨userId.hyphenated, email, now / second + 3600 * cfg.jwtExpiryHours.toNat⟩ cfg.jwtSecret)
    (representable : (now : Int) + 3600 * cfg.jwtExpiryHours.toNat * second ≤ maxUtc) :
    Lives jwt cfg userId email now (fun exp t => t / second ≤ exp + 60)
      (fun exp t => exp + 60 < t / second) := by
  obtain ⟨token, encoded, opened⟩ := opens
  refine ⟨token, generateToken_encoded encoded representable, fun t early => ?_, fun t late => ?_⟩
  · rw [verifyToken_opened cfg opened, if_neg (Nat.not_lt.mpr early)]
  · exact ⟨_, by rw [verifyToken_opened cfg opened, if_pos late]⟩

/-- A library that has made one token. -/
def oneToken (claims : Claims) (secret : String) : Jwt where
  encode c s := if c = claims ∧ s = secret then .ok "token" else .error "InvalidKeyFormat"
  openToken token s :=
    if token = "token" ∧ s = secret then .ok claims else .error "InvalidSignature"

def oneDay : TokenConfig := ⟨⟨"secret"⟩, 24⟩

def daysToken : Jwt := oneToken ⟨Uuid.hyphenated 7, "ada@example.com", 86400⟩ "secret"

theorem daysToken_opens :
    daysToken.Opens ⟨Uuid.hyphenated 7, "ada@example.com", 86400⟩ "secret" := by
  refine ⟨"token", ?_, ?_⟩
  · simp [daysToken, oneToken]
  · simp [daysToken, oneToken]

theorem token_lifetime_day :
    Lives daysToken oneDay 7 "ada@example.com" 0 (fun exp t => t / second ≤ exp + 60)
      (fun exp t => exp + 60 < t / second) :=
  token_lifetime daysToken oneDay 7 "ada@example.com" 0 daysToken_opens (by decide)

/-- Half a minute after its expiry the token is still good. -/
theorem expired_token_verified :
    ¬ Lives daysToken oneDay 7 "ada@example.com" 0 (fun exp t => t < exp * second)
      (fun exp t => exp * second < t) := by
  rintro ⟨token, issued, _, rejected⟩
  obtain ⟨made, encoded, opened⟩ := daysToken_opens
  have first : generateToken daysToken 0 7 "ada@example.com" oneDay = .ok (.ok made) :=
    generateToken_encoded encoded (by decide)
  obtain rfl := Except.ok.inj (Except.ok.inj (first.symm.trans issued))
  obtain ⟨e, refused⟩ := rejected ((86400 + 30) * second) (by decide)
  have verified := verifyToken_opened oneDay opened ((86400 + 30) * second)
  rw [if_neg (by decide)] at verified
  rw [verified] at refused
  cases refused

end Lifetime

end ApiBoilerplate.Http
