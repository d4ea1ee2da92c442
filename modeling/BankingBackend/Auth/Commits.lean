import BankingBackend.Auth.Execution
import BankingBackend.Auth.Log
import BankingBackend.Auth.System
import BankingBackend.Foundation.RelyGuarantee

/-! # What a call commits

Each commit is one of the few that the operation of its call makes, given what the
call has read in the log at the time.
-/

namespace BankingBackend.Auth

open Foundation Users
open Postgres (Uuid DatabaseError)

/-! ## The commits of each operation -/

section Shapes

variable {Thread : Type}

/-- The token is revoked by the changes, or it already was. -/
def Settled (older : List (Commit Thread)) (changes : List Change) (id : Uuid) : Prop :=
  (∃ revokedAt, .tokenRevokedLive id revokedAt ∈ changes) ∨ (rowsOf older).Dead id

section Commits

variable (older : List (Commit Thread)) (commit : Commit Thread)

/-- The customer was read and not locked. -/
structure Admitted (customer : Entity Customer) : Prop where
  read : (rowsOf (asOf commit.seen older)).customers customer.id = some customer.row
  unlocked : ∃ date, date ≤ toDate commit.now ∧ isLocked customer date = false

/-- The tokens of the customer that were live when they were selected are settled. -/
def Cleared (customerId : Uuid) : Prop :=
  ∀ id token, (rowsOf (asOf commit.selected older)).tokens id = some token →
    token.customerId = customerId → token.live = true → Settled older commit.changes id

def Revokes (changes : List Change) : Prop :=
  ∀ change ∈ changes, ∃ id revokedAt, change = .tokenRevokedLive id revokedAt

inductive Shape (config : AuthConfig) : Operation → Prop
  | registered {dto : RegisterRequestDto} (id : Uuid) (data : CustomerData)
      (changes : commit.changes = [.customerCreated id data]) : Shape config (.register dto)
  | loginFailed {dto : LoginRequestDto} (id : Uuid)
      (changes : commit.changes = [.loginFailed id config.loginLockThreshold
        config.loginLockDurationMinutes commit.now]) : Shape config (.login dto)
  | loginReset {dto : LoginRequestDto} (customer : Entity Customer)
      (changes : commit.changes = [.customerUpdated customer.id .resetLogin])
      (admitted : Admitted older commit customer) : Shape config (.login dto)
  | loginIssued {dto : LoginRequestDto} (customer : Entity Customer) (revokes : List Change)
      (newId : Uuid) (data : RefreshTokenData)
      (changes : commit.changes = revokes ++ [.tokenCreated newId data])
      (revoking : Revokes revokes) (admitted : Admitted older commit customer)
      (customerId : data.customerId = customer.id)
      (passwordChanges : data.passwordChanges = customer.row.passwordChanges)
      (cleared : Cleared older commit customer.id) : Shape config (.login dto)
  | refreshed {cookie : Option String} (id : Uuid) (token : RefreshToken) (newId : Uuid)
      (data : RefreshTokenData) (date revokedAt : ℕ)
      (changes : commit.changes =
        [.tokenCreated newId data, .tokenExchanged id date revokedAt newId])
      (found : (rowsOf older).tokens id = some token)
      (customerId : data.customerId = token.customerId)
      (passwordChanges : data.passwordChanges = token.passwordChanges)
      (began : toDate commit.since ≤ date) (ended : date ≤ toDate commit.now) :
      Shape config (.refresh cookie)
  | loggedOut {cookie : Option String} (id : Uuid) (revokedAt : ℕ)
      (changes : commit.changes = [.tokenRevoked id revokedAt]) : Shape config (.logout cookie)
  | profileUpdated {userId : Uuid} {dto : UpdateUserMeRequestDto} (user : Customer)
      (changes : commit.changes = [.customerUpdated userId (profileUpdate dto user)])
      (read : (rowsOf (asOf commit.seen older)).customers userId = some user) :
      Shape config (.putMe userId dto)
  | passwordChanged {userId : Uuid} {dto : UpdatePasswordRequestDto} (passwordHash : String)
      (revokes : List Change)
      (changes : commit.changes = .customerUpdated userId (.password passwordHash) :: revokes)
      (revoking : Revokes revokes) (cleared : Cleared older commit userId) :
      Shape config (.patchPassword userId dto)

end Commits

structure Written (config : AuthConfig) (requests : Thread → Request)
    (older : List (Commit Thread)) (commit : Commit Thread) : Prop where
  shape : Shape older commit config (requests commit.thread).operation
  since : commit.since ≤ commit.now
  later : ∀ earlier ∈ older, earlier.now ≤ commit.now

def History (config : AuthConfig) (requests : Thread → Request) (log : List (Commit Thread)) :
    Prop :=
  ∀ commit older, commit :: older <:+ log → Written config requests older commit

end Shapes

/-! ## Interference -/

section Calls

variable {Thread : Type} (thread : Thread)

def Uncommitted (world : World Thread) : Prop :=
  ∀ commit ∈ world.server.log, commit.thread ≠ thread

/-- Only others have committed since, and the call has read nothing. -/
structure Later [DecidableEq Thread] (before after : World Thread) : Prop where
  coherent : before.server.Coherent → after.server.Coherent
  now : before.now ≤ after.now
  seen : after.server.seen thread = before.server.seen thread
  selected : after.server.selected thread = before.server.selected thread
  log : ∃ newer, after.server.log = newer ++ before.server.log ∧
    ∀ commit ∈ newer, commit.thread ≠ thread

structure Kept [DecidableEq Thread] (before after : World Thread) : Prop
    extends Later thread before after where
  alive : before.crashed thread = false
  open_ : after.server.open_ thread = before.server.open_ thread

/-- A call that has crashed takes no further step. -/
def Rely [DecidableEq Thread] (before after : World Thread) : Prop :=
  after.crashed thread = false → Kept thread before after

def Stable [DecidableEq Thread] (stage : World Thread → Prop) : Prop :=
  ∀ before after, Kept thread before after → before.server.Coherent → stage before → stage after

/-- What does not depend on the call's transaction. -/
def Lasting [DecidableEq Thread] (fact : World Thread → Prop) : Prop :=
  ∀ before after, Later thread before after → before.server.Coherent → fact before → fact after

/-! ## Guarantees -/

structure Commit.Of (since : ℕ) (changes : List Change) (world : World Thread)
    (commit : Commit Thread) : Prop where
  mine : commit.thread = thread
  since : commit.since = since
  now : commit.now = world.now
  seen : commit.seen = world.server.seen thread
  selected : commit.selected = world.server.selected thread
  changes : commit.changes = changes

def Lawful (config : AuthConfig) (operation : Operation) (since : ℕ) (changes : List Change)
    (world : World Thread) : Prop :=
  ∀ commit : Commit Thread, commit.Of thread since changes world →
    Shape world.server.log commit config operation

def Grows (config : AuthConfig) (operation : Operation) (before after : World Thread) : Prop :=
  after.server.log = before.server.log ∨ ∃ commit, after.server.log = commit :: before.server.log ∧
    commit.thread = thread ∧ commit.now = before.now ∧ commit.since ≤ commit.now ∧
    Shape before.server.log commit config operation

structure Guarantee [DecidableEq Thread] (config : AuthConfig) (operation : Operation)
    (before after : World Thread) : Prop where
  coherent : before.server.Coherent → after.server.Coherent
  now : after.now = before.now
  crashed : after.crashed = before.crashed
  apart : Apart thread before.server after.server
  grows : Grows thread config operation before after

/-! ## What a call knows -/

structure Closed [DecidableEq Thread] (world : World Thread) : Prop where
  coherent : world.server.Coherent
  closed : world.server.open_ thread = none

structure Opened [DecidableEq Thread] (since : ℕ) (changes : List Change) (world : World Thread) :
    Prop where
  coherent : world.server.Coherent
  since_le : since ≤ world.now
  opened : ∃ transaction, world.server.open_ thread = some transaction ∧
    transaction.since = since ∧ transaction.changes = changes

structure Read (customer : Entity Customer) (world : World Thread) : Prop where
  had : world.server.seen thread ≤ world.server.log.length
  found : (rowsOf (asOf (world.server.seen thread) world.server.log)).customers customer.id =
    some customer.row

/-- The tokens that the call has last selected are the live ones of the customer. -/
structure Selected (customerId : Uuid) (ids : List Uuid) (world : World Thread) : Prop where
  had : world.server.selected thread ≤ world.server.log.length
  selects : ∀ id token,
    (rowsOf (asOf (world.server.selected thread) world.server.log)).tokens id = some token →
      token.customerId = customerId → token.live = true → id ∈ ids

def Dated (date : ℕ) (world : World Thread) : Prop := date ≤ toDate world.now

def Held (id customerId : Uuid) (passwordChanges : ℕ) (world : World Thread) : Prop :=
  ∃ token, (rowsOf world.server.log).tokens id = some token ∧ token.customerId = customerId ∧
    token.passwordChanges = passwordChanges

def Thrown (error : ServiceError) (world : World Thread) : Prop :=
  error = invalidRefreshToken → Uncommitted thread world

def Ends {α : Type} (returns : α → World Thread → Prop) :
    Except ServiceError α → World Thread → Prop
  | .ok value, world => returns value world
  | .error error, world => Thrown thread error world

end Calls

section Stable

variable {Thread : Type} [DecidableEq Thread] {thread : Thread}

theorem Lasting.stable {fact : World Thread → Prop} (lasting : Lasting thread fact) :
    Stable thread fact :=
  fun before after kept => lasting before after kept.toLater

theorem Lasting.and {first second : World Thread → Prop} (left : Lasting thread first)
    (right : Lasting thread second) : Lasting thread fun world => first world ∧ second world :=
  fun before after later coherent both =>
    ⟨left before after later coherent both.1, right before after later coherent both.2⟩

theorem Stable.and {first second : World Thread → Prop} (left : Stable thread first)
    (right : Stable thread second) : Stable thread fun world => first world ∧ second world :=
  fun before after kept coherent both =>
    ⟨left before after kept coherent both.1, right before after kept coherent both.2⟩

theorem stable_closed : Stable thread (Closed thread) := by
  intro before after kept coherent closed
  exact ⟨kept.coherent coherent, kept.open_.trans closed.closed⟩

theorem stable_opened {since : ℕ} {changes : List Change} :
    Stable thread (Opened thread since changes) := by
  intro before after kept coherent opened
  refine ⟨kept.coherent coherent, opened.since_le.trans kept.now, ?_⟩
  rw [kept.open_]
  exact opened.opened

omit [DecidableEq Thread] in
theorem Read.grows {customer : Entity Customer} {before after : World Thread}
    {newer : List (Commit Thread)} (read : Read thread customer before)
    (seen : after.server.seen thread = before.server.seen thread)
    (log : after.server.log = newer ++ before.server.log) : Read thread customer after := by
  refine ⟨?_, ?_⟩
  · rw [seen, log, List.length_append]
    exact read.had.trans (Nat.le_add_left _ _)
  · rw [seen, log, asOf_append read.had]
    exact read.found

theorem lasting_read {customer : Entity Customer} : Lasting thread (Read thread customer) := by
  intro before after later coherent read
  rcases later.log with ⟨newer, log, _⟩
  exact read.grows later.seen log

theorem lasting_selected {customerId : Uuid} {ids : List Uuid} :
    Lasting thread (Selected thread customerId ids) := by
  intro before after later coherent selected
  rcases later.log with ⟨newer, log, _⟩
  refine ⟨?_, ?_⟩
  · rw [later.selected, log, List.length_append]
    exact selected.had.trans (Nat.le_add_left _ _)
  · rw [later.selected, log, asOf_append selected.had]
    exact selected.selects

theorem lasting_nothing : Lasting thread fun _ => True := fun _ _ _ _ _ => True.intro

theorem lasting_dated {date : ℕ} : Lasting thread (Dated date : World Thread → Prop) := by
  intro before after later coherent dated
  exact dated.trans (Nat.div_le_div_right later.now)

theorem Later.replays {before after : World Thread} (later : Later thread before after)
    (coherent : before.server.Coherent) : ∃ changes,
      Rows.Replays changes (rowsOf before.server.log) (rowsOf after.server.log) := by
  rcases later.log with ⟨newer, log, _⟩
  have logged := (later.coherent coherent).logged
  rw [logged.rows_eq, log] at logged
  exact ⟨_, log ▸ logged.replays⟩

theorem lasting_held {id customerId : Uuid} {passwordChanges : ℕ} :
    Lasting thread (Held id customerId passwordChanges : World Thread → Prop) := by
  rintro before after later coherent ⟨token, found, customer, changes⟩
  rcases later.replays coherent with ⟨_, replays⟩
  rcases replays.kept found with ⟨later, present, continues⟩
  exact ⟨later, present, continues.customerId.trans customer,
    continues.passwordChanges.trans changes⟩

theorem Later.uncommitted {before after : World Thread} (later : Later thread before after)
    (uncommitted : Uncommitted thread before) : Uncommitted thread after := by
  intro commit member
  rcases later.log with ⟨newer, log, others⟩
  rw [log, List.mem_append] at member
  rcases member with newer | older
  · exact others commit newer
  · exact uncommitted commit older

theorem lasting_settled {changes : List Change} {id : Uuid} :
    Lasting thread fun world : World Thread => Settled world.server.log changes id := by
  intro before after later coherent settled
  rcases later.replays coherent with ⟨_, replays⟩
  exact settled.imp_right replays.dead

theorem lasting_all {ids : List Uuid} {fact : Uuid → World Thread → Prop}
    (lasting : ∀ id, Lasting thread (fact id)) :
    Lasting thread fun world => ∀ id ∈ ids, fact id world :=
  fun before after later coherent holds id member =>
    lasting id before after later coherent (holds id member)

theorem lasting_known {id : Uuid} :
    Lasting thread fun world : World Thread => ((rowsOf world.server.log).tokens id).isSome := by
  intro before after later coherent known
  rcases Option.isSome_iff_exists.mp known with ⟨token, found⟩
  rcases later.replays coherent with ⟨_, replays⟩
  rcases replays.kept found with ⟨version, present, _⟩
  rw [present]
  rfl

end Stable

end BankingBackend.Auth
