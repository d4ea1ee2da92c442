import BankingBackend.Foundation.ReadCommitted
import BankingBackend.Outbox.Events
import BankingBackend.Postgres.Statement

/-! # Customers and refresh tokens

The rows of `customers` and `refresh_tokens`, and the statements of `AuthService`
and `UsersService`. The clock counts microseconds; the services and the columns
count milliseconds.
-/

namespace BankingBackend.Auth

open Foundation
open Outbox (toTimestamp)
open Postgres (Uuid DatabaseError)

/-! ## Rows -/

/-- `passwordChanges` is no column: it counts the passwords the customer has had. -/
structure Customer where
  email : String
  name : String
  phone : String
  passwordHash : String
  failedLoginAttempts : ℕ := 0
  lockUntil : Option ℤ := none
  passwordChanges : ℕ := 0
  deriving DecidableEq

/-- `passwordChanges` is no column: it is the one of the customer whose password a login
checked for the first token of the chain. -/
structure RefreshToken where
  customerId : Uuid
  tokenHash : String
  expiresAt : ℤ
  revokedAt : Option ℕ := none
  replacedById : Option Uuid := none
  passwordChanges : ℕ
  deriving DecidableEq

def RefreshToken.live (token : RefreshToken) : Bool := token.revokedAt.isNone

structure Entity (Row : Type) where
  id : Uuid
  row : Row
  deriving DecidableEq

/-- What `new Date()` makes of the clock. -/
def toDate (now : ℕ) : ℕ := now / 1000

/-! ## Events and audit logs -/

structure UserRegisteredEvent where
  actorId : Uuid
  resourceId : Uuid
  traceId : String
  userAgent : Option String
  clientIpMasked : Option String

inductive AuditAction
  | register
  | login
  | refresh
  | logout
  | passwordChange
  deriving DecidableEq, Repr

structure AuditLogData where
  action : AuditAction
  success : Bool := true
  customerId : Uuid
  traceId : Option String
  reasonCode : Option String := none
  ipAddress : Option String
  userAgent : Option String

/-! ## Statements -/

inductive CustomerKey
  | id (id : Uuid)
  | email (email : String)

structure CustomerData where
  email : String
  name : String
  phone : String
  passwordHash : String

/-- A field that is missing or `null` is to stay as it is. -/
structure UpdateUserMeRequestDto where
  email : Option String := none
  name : Option String := none
  phone : Option String := none
  deriving DecidableEq

structure RefreshTokenData where
  customerId : Uuid
  tokenHash : String
  expiresAt : ℤ
  passwordChanges : ℕ

/-- The data of `customer.update`. `requested` is no column: it is the request that the
profile was made from. -/
inductive CustomerUpdate
  | profile (email name phone : String) (requested : UpdateUserMeRequestDto)
  | password (passwordHash : String)
  | resetLogin

/-- An `updateMany` over all live tokens of a customer selects its rows first and then
updates those that are still live, one by one. -/
inductive Statement
  | begin
  | commit
  | rollback
  | customerFindUnique (key : CustomerKey)
  | customerCreate (data : CustomerData)
  | customerUpdate (id : Uuid) (data : CustomerUpdate)
  | recordLoginFailure (id : Uuid) (threshold : ℚ) (durationMinutes : ℤ)
  | eventCreate (event : UserRegisteredEvent)
  | refreshTokenFindUnique (tokenHash : String)
  | refreshTokenCreate (data : RefreshTokenData)
  | refreshTokenSelectLive (customerId : Uuid)
  | refreshTokenRevokeLive (id : Uuid) (revokedAt : ℕ)
  | refreshTokenExchange (id : Uuid) (date revokedAt : ℕ) (replacedById : Uuid)
  | refreshTokenRevoke (id : Uuid) (revokedAt : ℕ)
  | auditLogCreate (data : AuditLogData)

@[reducible] def Statement.Result : Statement → Type
  | .begin => Unit
  | .commit => Unit
  | .rollback => Unit
  | .customerFindUnique _ => Option (Entity Customer)
  | .customerCreate _ => Entity Customer
  | .customerUpdate _ _ => Entity Customer
  | .recordLoginFailure _ _ _ => Option (ℕ × Option ℤ)
  | .eventCreate _ => Unit
  | .refreshTokenFindUnique _ => Option (Entity RefreshToken × Option (Entity Customer))
  | .refreshTokenCreate _ => Entity RefreshToken
  | .refreshTokenSelectLive _ => List Uuid
  | .refreshTokenRevokeLive _ _ => ℕ
  | .refreshTokenExchange _ _ _ _ => ℕ
  | .refreshTokenRevoke _ _ => Unit
  | .auditLogCreate _ => Unit

/-! ## Changes of a row -/

namespace Customer

def new (data : CustomerData) : Customer where
  email := data.email
  name := data.name
  phone := data.phone
  passwordHash := data.passwordHash

variable (customer : Customer)

def update : CustomerUpdate → Customer
  | .profile email name phone _ => { customer with email, name, phone }
  | .password passwordHash =>
      { customer with passwordHash, passwordChanges := customer.passwordChanges + 1 }
  | .resetLogin => { customer with failedLoginAttempts := 0, lockUntil := none }

/-- One more failed attempt, which locks the account once the threshold is reached. -/
def failLogin (threshold : ℚ) (durationMinutes : ℤ) (now : ℕ) : Customer :=
  { customer with
    failedLoginAttempts := customer.failedLoginAttempts + 1
    lockUntil :=
      if threshold ≤ (customer.failedLoginAttempts + 1 : ℕ) then
        some (toTimestamp now + durationMinutes * 60000)
      else none }

theorem failLogin_locked {customer : Customer} {threshold : ℚ} {durationMinutes : ℤ} {now : ℕ}
    (locked : (customer.failLogin threshold durationMinutes now).lockUntil.isSome = true) :
    threshold ≤ (customer.failLogin threshold durationMinutes now).failedLoginAttempts := by
  unfold failLogin at locked
  split at locked
  · assumption
  · cases locked

end Customer

namespace RefreshToken

def new (data : RefreshTokenData) : RefreshToken where
  customerId := data.customerId
  tokenHash := data.tokenHash
  expiresAt := data.expiresAt
  passwordChanges := data.passwordChanges

variable (token : RefreshToken)

def revoke (revokedAt : ℕ) : RefreshToken := { token with revokedAt := some revokedAt }

/-- The `where` of the exchange. -/
def exchangeable (date : ℕ) : Bool :=
  token.revokedAt.isNone && token.replacedById.isNone && decide ((date : ℤ) < token.expiresAt)

def replace (revokedAt : ℕ) (replacedById : Uuid) : RefreshToken :=
  { token with revokedAt := some revokedAt, replacedById := some replacedById }

end RefreshToken

/-! ## The committed rows -/

structure Rows where
  customers : Uuid → Option Customer
  tokens : Uuid → Option RefreshToken

def Rows.empty : Rows := ⟨fun _ => none, fun _ => none⟩

inductive Change
  | customerCreated (id : Uuid) (data : CustomerData)
  | customerUpdated (id : Uuid) (data : CustomerUpdate)
  | loginFailed (id : Uuid) (threshold : ℚ) (durationMinutes : ℤ) (now : ℕ)
  | tokenCreated (id : Uuid) (data : RefreshTokenData)
  | tokenRevokedLive (id : Uuid) (revokedAt : ℕ)
  | tokenRevoked (id : Uuid) (revokedAt : ℕ)
  | tokenExchanged (id : Uuid) (date revokedAt : ℕ) (replacedById : Uuid)

namespace Change

def onCustomer : Change → Option Customer → Option Customer
  | .customerCreated _ data, none => some (.new data)
  | .customerUpdated _ data, some row => some (row.update data)
  | .loginFailed _ threshold durationMinutes now, some row =>
      some (row.failLogin threshold durationMinutes now)
  | _, _ => none

def onToken : Change → Option RefreshToken → Option RefreshToken
  | .tokenCreated _ data, none => some (.new data)
  | .tokenRevokedLive _ revokedAt, some row => if row.live then some (row.revoke revokedAt) else none
  | .tokenRevoked _ revokedAt, some row => some (row.revoke revokedAt)
  | .tokenExchanged _ date revokedAt replacedById, some row =>
      if row.exchangeable date then some (row.replace revokedAt replacedById) else none
  | _, _ => none

theorem onToken_tokenRevokedLive (id : Uuid) (revokedAt : ℕ) (row : RefreshToken)
    (live : row.live = true) :
    (tokenRevokedLive id revokedAt).onToken (some row) = some (row.revoke revokedAt) := if_pos live

theorem onToken_tokenExchanged (id : Uuid) (date revokedAt : ℕ) (replacedById : Uuid)
    (row : RefreshToken) (exchangeable : row.exchangeable date = true) :
    (tokenExchanged id date revokedAt replacedById).onToken (some row) =
      some (row.replace revokedAt replacedById) := if_pos exchangeable

def customer? : Change → Option Uuid
  | .customerCreated id _ | .customerUpdated id _ | .loginFailed id _ _ _ => some id
  | _ => none

def token? : Change → Option Uuid
  | .tokenCreated id _ | .tokenRevokedLive id _ | .tokenRevoked id _ | .tokenExchanged id _ _ _ =>
      some id
  | _ => none

def apply (rows : Rows) (change : Change) : Option Rows :=
  match change.customer?, change.token? with
  | some id, _ => (change.onCustomer (rows.customers id)).map fun row =>
      { rows with customers := Function.update rows.customers id (some row) }
  | none, some id => (change.onToken (rows.tokens id)).map fun row =>
      { rows with tokens := Function.update rows.tokens id (some row) }
  | none, none => none

end Change

end BankingBackend.Auth
