import FilteredFeed.Engine.Calls

namespace FilteredFeed.Engine

open FilteredFeed.Feed FilteredFeed.Listener FilteredFeed.Timeline

variable [Patterns]

-- Sends an item to the receivers of a stream, and says how many they are. A closed stream sends
-- nothing.
def publish (e : Engine) (s : StreamId) (item : Item) : Option Nat × Engine :=
  let channel := e.channel s
  if channel.closed then (none, e)
  else
    (some channel.receiverCount,
     (channel.waiting.foldl wake e).modifyChannel s (·.send item))

-- Lets no more items come. Receivers get those that are left.
def closeStream (e : Engine) (s : StreamId) : Engine :=
  ((e.channel s).waiting.foldl wake e).modifyChannel s (·.close)

-- Lets a pump go on until nothing is left for it. The pump ends with its stream or its timeline.
def runPump (k : TaskId) (t : TimelineId) (s : StreamId) : Nat → Engine → Engine
  | 0, e => e
  | rounds + 1, e =>
      let (received, channel) := (e.channel s).receive k
      let e := e.modifyChannel s fun _ => channel
      let alive := e.isAlive (.timeline t)
      match received with
      | .nothing => e
      | .item item => if alive then runPump k t s rounds (e.offer t item).2 else e.finishTask k
      | .lagged _ => if alive then runPump k t s rounds (e.recoverLag t) else e.finishTask k
      | .closed => e.finishTask k

-- Storage has answered to a task.
def completeTask (e : Engine) (k : TaskId) (result : Except StorageError (List Item)) : Engine :=
  match e.tasks[k]? with
  | some ⟨.refetch t request, _, _, _⟩ =>
      let e := e.finishTask k
      if e.isAlive (.timeline t) then e.completeRefetch t request.generation result else e
  | _ => e

-- Lets a task go on. It may come to want something of a storage.
def poll (e : Engine) (k : TaskId) : Option (StorageId × FetchRequest) × Engine :=
  match e.tasks[k]? with
  | none => (none, e)
  | some ⟨job, started, aborted, finished⟩ =>
      if finished then (none, e)
      else if aborted then (none, e.finishTask k)
      else
        match job with
        | .pump t s => (none, runPump k t s ((e.channel s).backlog k + 2) e)
        | .refetch t request =>
            if started || e.isAlive (.timeline t) then
              (some ((e.timeline t).storage, request),
               e.modifyTask k fun task => { task with started := true })
            else (none, e.finishTask k)

-- Takes the task whose turn it is.
def nextTask (e : Engine) : Option (TaskId × Engine) :=
  match e.ready with
  | [] => none
  | k :: ready => some (k, { e with ready })

end FilteredFeed.Engine
