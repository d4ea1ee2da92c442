import BankingBackend.Auth.Requests

/-! # `AuthService` -/

namespace BankingBackend.Auth

open Foundation
open Postgres (Uuid DatabaseError)
open Transactions (RequestContext)

/-! ## Requests and responses -/

structure RegisterRequestDto where
  email : String
  password : String
  name : String
  phone : String

structure LoginRequestDto where
  email : String
  password : String

structure UserDto where
  id : Uuid
  email : String
  name : String
  deriving DecidableEq

/-- The answer of `login` and `refresh`. -/
structure TokensDto where
  accessToken : String
  refreshToken : String
  expiresIn : ℤ
  tokenType : String := "Bearer"
  user : UserDto
  deriving DecidableEq

section Methods

variable (config : AuthConfig) (context : RequestContext)

/-! ## Registration -/

def registeredEvent (customerId : Uuid) : UserRegisteredEvent where
  actorId := customerId
  resourceId := customerId
  traceId := context.traceId.getD "missing-trace-id"
  userAgent := context.userAgent
  clientIpMasked := context.clientIpMasked

def createCustomer (dto : RegisterRequestDto) (passwordHash : String) :
    Service (Entity Customer) :=
  transaction do
    let customer ← query (.customerCreate
      { email := dto.email, name := dto.name, phone := dto.phone, passwordHash })
    query (.eventCreate (registeredEvent context customer.id))
    pure customer

def register (dto : RegisterRequestDto) : Service String := do
  match ← query (.customerFindUnique (.email dto.email)) with
  | some _ => throw (.http (.conflict "Customer already exists"))
  | none =>
      let passwordHash ← request (.bcryptHash dto.password)
      let customer ← tryCatch (createCustomer context dto passwordHash) fun err =>
        if err.code = some "P2002" then throw (.http (.conflict "Customer already exists"))
        else throw err
      recordSuccess context .register customer.id
      pure "Customer registered successfully"

/-! ## Login -/

def invalidCredentials : ServiceError := .http (.unauthorized "Invalid credentials")

def lockedMessage : String :=
  "Account temporarily locked due to too many failed attempts. Try again later."

def failLogin (customer : Entity Customer) : Service TokensDto := do
  match ← query (.recordLoginFailure customer.id config.loginLockThreshold
      config.loginLockDurationMinutes) with
  | none => throw invalidCredentials
  | some _ =>
      recordAudit context .login customer.id false (some "INVALID_CREDENTIALS")
      throw invalidCredentials

/-- A token of the customer under a new raw token, valid from now on. -/
def newTokenData (customerId : Uuid) (rawRefreshToken : String) (now passwordChanges : ℕ) :
    RefreshTokenData where
  customerId
  tokenHash := config.sha256 rawRefreshToken
  expiresAt := now + config.refreshExpiresIn * 1000
  passwordChanges

def issueToken (customer : Entity Customer) (data : RefreshTokenData) : Service Unit :=
  transaction do
    revokeAllLive customer.id
    let _ ← query (.refreshTokenCreate data)
    pure ()

def tokensDto (accessToken refreshToken : String) (customerId : Uuid) (email name : String) :
    TokensDto where
  accessToken
  refreshToken
  expiresIn := config.accessExpiresIn
  user := { id := customerId, email, name }

def succeedLogin (customer : Entity Customer) (email : String) : Service TokensDto := do
  let _ ← query (.customerUpdate customer.id .resetLogin)
  let accessToken ← signAsync customer.id
  let rawRefreshToken ← request .randomBytes
  let now ← request .date
  issueToken customer
    (newTokenData config customer.id rawRefreshToken now customer.row.passwordChanges)
  recordSuccess context .login customer.id
  pure (tokensDto config accessToken rawRefreshToken customer.id email customer.row.name)

def isLocked (customer : Entity Customer) (now : ℕ) : Bool :=
  customer.row.lockUntil.any fun lockUntil => decide ((now : ℤ) < lockUntil)

def login (dto : LoginRequestDto) : Service TokensDto := do
  match ← query (.customerFindUnique (.email dto.email)) with
  | none => throw invalidCredentials
  | some customer =>
      let now ← request .date
      if isLocked customer now then throw (.http (.locked lockedMessage))
      else if config.compare dto.password customer.row.passwordHash then
        succeedLogin config context customer dto.email
      else failLogin config context customer

/-! ## Refreshing -/

def invalidRefreshToken : ServiceError := .http (.unauthorized "Invalid refresh token")

def exchangeToken (token : Entity RefreshToken) (data : RefreshTokenData) : Service Unit :=
  transaction do
    let created ← query (.refreshTokenCreate data)
    let date ← request .date
    let revokedAt ← request .date
    let count ← query (.refreshTokenExchange token.id date revokedAt created.id)
    if count ≠ 1 then throw invalidRefreshToken

def rotate (token : Entity RefreshToken) (customer : Entity Customer) : Service TokensDto := do
  let newRawRefreshToken ← request .randomBytes
  let now ← request .date
  exchangeToken token
    (newTokenData config customer.id newRawRefreshToken now token.row.passwordChanges)
  recordSuccess context .refresh customer.id
  let accessToken ← signAsync customer.id
  pure (tokensDto config accessToken newRawRefreshToken customer.id customer.row.email
    customer.row.name)

/-- The cookie, unless it is missing or empty. -/
def presented (cookie : Option String) : Option String := cookie.filter fun raw => raw != ""

def refresh (cookie : Option String) : Service TokensDto := do
  match presented cookie with
  | none => throw invalidRefreshToken
  | some rawRefreshToken =>
      match ← query (.refreshTokenFindUnique (config.sha256 rawRefreshToken)) with
      | some (token, some customer) => rotate config context token customer
      | some (_, none) => throw invalidRefreshToken
      | none => throw invalidRefreshToken

/-! ## Logout -/

def logout (cookie : Option String) : Service String := do
  match presented cookie with
  | none => pure "Logged out"
  | some rawRefreshToken =>
      match ← query (.refreshTokenFindUnique (config.sha256 rawRefreshToken)) with
      | some (token, _) =>
          if token.row.live then
            let revokedAt ← request .date
            query (.refreshTokenRevoke token.id revokedAt)
            recordSuccess context .logout token.row.customerId
          pure "Logged out"
      | none => pure "Logged out"

end Methods

end BankingBackend.Auth
