import BankingBackend.Foundation.Program
import BankingBackend.Foundation.Text
import BankingBackend.Postgres.Uuid
import Mathlib.Logic.Function.Basic

/-! # The keys of the transactions controller in Redis

Idempotency keys and transfer locks, and the commands on them. Who stored a state
and who drew a token is history that no command reads.
-/

namespace BankingBackend.Redis

open Foundation Postgres

inductive IdempotencyOperation
  | deposit
  | withdraw
  | transfer
  deriving DecidableEq

def IdempotencyOperation.text : IdempotencyOperation → String
  | .deposit => "deposit"
  | .withdraw => "withdraw"
  | .transfer => "transfer"

/-- `transactions:idempotency:<userId>:<operation>:<referenceId>`. -/
structure IdempotencyKey where
  userId : Uuid
  operation : IdempotencyOperation
  referenceId : String
  deriving DecidableEq

namespace IdempotencyKey

def text (key : IdempotencyKey) : String :=
  "transactions:idempotency:" ++ key.userId.toText ++
    (":" ++ (key.operation.text ++ (":" ++ key.referenceId)))

/-- No operation begins like another. -/
theorem operation_text_inj {operation other : IdempotencyOperation} {rest otherRest : String}
    (same : ":" ++ (operation.text ++ (":" ++ rest)) = ":" ++ (other.text ++ (":" ++ otherRest))) :
    operation = other ∧ rest = otherRest := by
  have characters := congrArg String.toList same
  cases operation <;> cases other <;> simp [IdempotencyOperation.text] at characters <;>
    exact ⟨rfl, String.toList_inj.mp characters⟩

theorem text_injective : Function.Injective text := by
  rintro ⟨user, operation, referenceId⟩ ⟨otherUser, otherOperation, otherReferenceId⟩ same
  have lengths : user.toText.toList.length = otherUser.toText.toList.length := by
    rw [Uuid.toText_length, Uuid.toText_length]
  rcases text_append_inj lengths same with ⟨users, rest⟩
  rcases operation_text_inj rest with ⟨rfl, rfl⟩
  rw [Uuid.toText_injective users]

end IdempotencyKey

inductive KeyState
  | inFlight
  | done
  deriving DecidableEq

structure Stored (Thread : Type) where
  state : KeyState
  author : Thread

/-- `userLock` holds the token under `transactions:user-lock:<userId>:TRANSFER`. -/
structure KeyStore (Thread : Type) where
  idempotency : IdempotencyKey → Option (Stored Thread)
  userLock : Uuid → Option Uuid
  drawn : Uuid → Option Thread

inductive KeyCommand
  | isReady
  | setNX (key : IdempotencyKey)
  | get (key : IdempotencyKey)
  | del (key : IdempotencyKey)
  | setDone (key : IdempotencyKey)
  | randomUUID
  | lockNX (userId token : Uuid)
  | unlock (userId token : Uuid)

/-- A command answers nothing when the client throws. -/
@[reducible] def KeyCommand.Answer : KeyCommand → Type
  | .isReady => Bool
  | .setNX _ | .lockNX _ _ => Option Bool
  | .get _ => Option (Option KeyState)
  | .del _ | .setDone _ | .unlock _ _ => Option Unit
  | .randomUUID => Uuid

def keyInterface : Interface := ⟨KeyCommand, KeyCommand.Answer⟩

namespace KeyStore

variable {Thread : Type} (store : KeyStore Thread)

def empty : KeyStore Thread := ⟨fun _ => none, fun _ => none, fun _ => none⟩

def setKey (key : IdempotencyKey) (stored : Option (Stored Thread)) : KeyStore Thread :=
  { store with idempotency := Function.update store.idempotency key stored }

def setLock (userId : Uuid) (token : Option Uuid) : KeyStore Thread :=
  { store with userLock := Function.update store.userLock userId token }

def draw (thread : Thread) (token : Uuid) : KeyStore Thread :=
  { store with drawn := Function.update store.drawn token (some thread) }

/-- `SET key in-flight EX ttl NX`: whether the key was set. -/
def setNX (thread : Thread) (key : IdempotencyKey) : Bool × KeyStore Thread :=
  match store.idempotency key with
  | some _ => (false, store)
  | none => (true, store.setKey key (some ⟨.inFlight, thread⟩))

/-- `SET lock token EX ttl NX`. -/
def lockNX (userId token : Uuid) : Bool × KeyStore Thread :=
  match store.userLock userId with
  | some _ => (false, store)
  | none => (true, store.setLock userId (some token))

/-- `RELEASE_USER_LOCK_LUA`. -/
def unlock (userId token : Uuid) : KeyStore Thread :=
  if store.userLock userId = some token then store.setLock userId none else store

theorem idempotency_setKey (key named : IdempotencyKey) (stored : Option (Stored Thread)) :
    (store.setKey key stored).idempotency named =
      if named = key then stored else store.idempotency named :=
  Function.update_apply ..

theorem userLock_setLock (userId named : Uuid) (token : Option Uuid) :
    (store.setLock userId token).userLock named =
      if named = userId then token else store.userLock named :=
  Function.update_apply ..

theorem drawn_draw (thread : Thread) (token named : Uuid) :
    (store.draw thread token).drawn named =
      if named = token then some thread else store.drawn named :=
  Function.update_apply ..

end KeyStore

/-- Keys whose time to live runs out. -/
inductive KeyExpiry
  | key (key : IdempotencyKey)
  | lock (userId : Uuid)

def KeyStore.expire {Thread : Type} (store : KeyStore Thread) : KeyExpiry → KeyStore Thread
  | .key key => store.setKey key none
  | .lock userId => store.setLock userId none

end BankingBackend.Redis
