import FilteredFeed.Scenario.Basic

namespace FilteredFeed.Scenario

open FilteredFeed.Engine FilteredFeed.Feed FilteredFeed.Timeline

variable [Patterns]

def on (s : Scenario) (f : Engine → Engine) : Scenario := { s with engine := f s.engine }

def storage (s : Scenario) (id : StorageId) : GatedStorage := s.storages[id]?.getD default

def setStorage (s : Scenario) (id : StorageId) (storage : GatedStorage) : Scenario :=
  { s with storages := s.storages.set id storage }

-- Asks a storage for an operation or a task.
def ask (s : Scenario) (id : StorageId) (asker : Asker) (request : FetchRequest) :
    Option (Except StorageError (List Item)) × Scenario :=
  let (result, storage) := (s.storage id).fetch asker request
  (result, s.setStorage id storage)

-- Lets background work go on, at most for so many turns of tasks.
def takeTurns : Nat → Scenario → Scenario
  | 0, s => s
  | turns + 1, s =>
      match s.engine.nextTask with
      | none => s
      | some (k, engine) =>
          let (wanted, engine) := engine.poll k
          let s := { s with engine }
          match wanted with
          | none => takeTurns turns s
          | some (id, request) =>
              let (result, s) := s.ask id (.task k) request
              match result with
              | some result => takeTurns turns (s.on (·.completeTask k result))
              | none => takeTurns turns s

-- Lets background work go on until none can. Every item that a pump has not got yet may start one
-- more task, and a task has a turn when it is ready and one when it was aborted.
def settle (s : Scenario) : Scenario :=
  let unread := s.engine.channels.foldr (fun channel n =>
    channel.receivers.foldr (fun r n => channel.sent - r.2 + 1 + n) n) 0
  s.takeTurns (s.engine.ready.length + 2 * (s.engine.tasks.length + unread))

-- Goes on with an operation that waits for storage.
def resume (s : Scenario) (o : OperationId) : Scenario :=
  match s.engine.operations[o]? with
  | some ⟨t, _, .waiting request⟩ =>
      let (result, s) := s.ask (s.engine.timeline t).storage (.operation o) request
      match result with
      | some result => s.on (·.complete o result)
      | none => s
  | _ => s

-- What an operation came to, so far.
def operationReply (s : Scenario) (o : OperationId) : Reply :=
  match s.engine.operations[o]? with
  | some ⟨_, _, .done result⟩ => .outcome result
  | some ⟨_, _, .cancelled⟩ => .nothing
  | _ => .pending

end FilteredFeed.Scenario
