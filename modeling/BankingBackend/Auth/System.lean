import BankingBackend.Auth.Service
import BankingBackend.Foundation.Transition
import BankingBackend.Users.Service

/-! # Calls about customers and their sessions

Any number of calls, each a thread, over one database. The rate limit of the login
and the guard of the user's calls decide only which calls begin.
-/

namespace BankingBackend.Auth

open Foundation Users
open Postgres (Uuid DatabaseError)
open Transactions (RequestContext)

inductive Operation
  | register (dto : RegisterRequestDto)
  | login (dto : LoginRequestDto)
  | refresh (cookie : Option String)
  | logout (cookie : Option String)
  | putMe (userId : Uuid) (dto : UpdateUserMeRequestDto)
  | patchPassword (userId : Uuid) (dto : UpdatePasswordRequestDto)

structure Request where
  context : RequestContext := {}
  operation : Operation

inductive Response
  | message (text : String)
  | tokens (dto : TokensDto)
  | user (dto : UserMeResponseDto)
  deriving DecidableEq

def handle (config : AuthConfig) (request : Request) : Service Response :=
  let { context, operation } := request
  match operation with
  | .register dto => .message <$> register context dto
  | .login dto => .tokens <$> login config context dto
  | .refresh cookie => .tokens <$> refresh config context cookie
  | .logout cookie => .message <$> logout config context cookie
  | .putMe userId dto => .user <$> putMe userId dto
  | .patchPassword userId dto => .message <$> patchPassword config context userId dto

abbrev CallResult := Except ServiceError Response

abbrev Configuration (Thread : Type) :=
  Foundation.Configuration interface Thread (World Thread) CallResult

abbrev Label (Thread : Type) := Action Thread Choice (Occurrence Thread)

section Runs

variable {Thread : Type} [DecidableEq Thread] (config : AuthConfig)
  (requests : Thread → Request)

def step (current : Configuration Thread) (label : Label Thread) :
    Option (Configuration Thread) :=
  (machine Thread config).step current label

omit [DecidableEq Thread] in
def initial (now : ℕ) : Configuration Thread where
  shared := { server := .initial, now }
  program thread := (handle config (requests thread)).run
  begun _ := false

/-- The configurations reached by any interleaving of the calls, each step of which is
allowed. -/
def Reachable (allowed : Configuration Thread → Label Thread → Prop)
    (current : Configuration Thread) : Prop :=
  ∃ now, Run (step config) allowed (initial config requests now) current

/-! ## Runs on fixed requests -/

/-- Every password is its own hash. -/
def sampleConfig : AuthConfig where
  hash _ password := password
  compare password passwordHash := password == passwordHash
  sha256 raw := raw

def registering : Request where
  operation := .register { email := "a@b.co", password := "first", name := "A", phone := "1" }

def loggingIn (password : String) : Request where
  operation := .login { email := "a@b.co", password }

/-- A step of a call that does not fail, with the identifier of a row it inserts and what it
draws. -/
def act (thread : Thread) (newId : BitVec 128 := 0) (drawn : String := "") : Label Thread :=
  .perform thread { newId := ⟨newId⟩, drawn }

def leadsTo (labels : List (Label Thread)) (test : Configuration Thread → Bool) : Bool :=
  (execute (step config) (fun _ _ => true) (initial config requests 0) labels).any test

theorem exists_reachable {labels : List (Label Thread)} {test : Configuration Thread → Bool}
    {allowed : Configuration Thread → Label Thread → Prop}
    (everything : ∀ current label, allowed current label)
    (leads : leadsTo config requests labels test = true) :
    ∃ current, Reachable config requests allowed current ∧ test current = true := by
  rcases exists_run_of_execute (step config) (fun _ _ => true) allowed
      (fun current label _ => everything current label) leads with ⟨current, run, passed⟩
  exact ⟨current, ⟨0, run⟩, passed⟩

end Runs

end BankingBackend.Auth
