import BankingBackend.Auth.Requests

/-! # `UsersService` -/

namespace BankingBackend.Users

open Foundation Auth
open Postgres (Uuid DatabaseError)
open Transactions (RequestContext)

structure UpdatePasswordRequestDto where
  oldPassword : String
  newPassword : String

/-- The accounts of the answer are left out. -/
structure UserMeResponseDto where
  id : Uuid
  email : String
  name : String
  phone : String
  deriving DecidableEq

def toMeResponseDto (user : Entity Customer) : UserMeResponseDto where
  id := user.id
  email := user.row.email
  name := user.row.name
  phone := user.row.phone

def userNotFound : ServiceError := .http (.notFound "User not found")

/-- The data of the update: fields the request lacks are as they were read. -/
def profileUpdate (dto : UpdateUserMeRequestDto) (user : Customer) : CustomerUpdate :=
  .profile (dto.email.getD user.email) (dto.name.getD user.name) (dto.phone.getD user.phone) dto

def putMe (userId : Uuid) (dto : UpdateUserMeRequestDto) : Service UserMeResponseDto := do
  match ← query (.customerFindUnique (.id userId)) with
  | none => throw userNotFound
  | some user =>
      let updated ← tryCatch (query (.customerUpdate userId (profileUpdate dto user.row))) fun err =>
        if err.code = some "P2002" then throw (.http (.conflict "Email already exists"))
        else throw err
      pure (toMeResponseDto updated)

/-- The transaction of a password change. -/
def changePassword (userId : Uuid) (passwordHash : String) : Service Unit :=
  transaction do
    let _ ← query (.customerUpdate userId (.password passwordHash))
    revokeAllLive userId

def patchPassword (config : AuthConfig) (context : RequestContext) (userId : Uuid)
    (dto : UpdatePasswordRequestDto) : Service String := do
  match ← query (.customerFindUnique (.id userId)) with
  | none => throw userNotFound
  | some user =>
      if config.compare dto.oldPassword user.row.passwordHash = false then
        throw (.http (.unauthorized "Invalid credentials"))
      else if dto.oldPassword = dto.newPassword then
        throw (.http (.badRequest "New password cannot be the same as the old password"))
      else
        let passwordHash ← request (.bcryptHash dto.newPassword)
        changePassword userId passwordHash
        recordSuccess context .passwordChange userId
        pure "Password updated successfully"

end BankingBackend.Users
