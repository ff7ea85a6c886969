import LiveTemplates.Debounce.Host

/-!
# A debouncer with a scripted callback

A session has one debouncer. Its callback notes each call with the time and then reacts as a script
says: it fails, or it uses the debouncer itself. Sessions show what a callback may do and what the
debouncer does in return.

A callback can be a plain one or a coroutine. A coroutine runs on the session's event loop, where
nobody sees its failures, or else on a loop of its own; a second loop inside such a run is refused.

Callbacks that settle further changes nest. `depth` bounds the nesting; a callback beyond it is
not called.
-/

namespace LiveTemplates

/-- How a callback is called. -/
inductive CallbackKind
  | plain
  | coroutine
deriving DecidableEq, Repr

/-- What a callback does after it has noted its call. -/
inductive CallbackReaction
  | fail (text : String)
  | notify (p : Path)
  | flush
  | dispose
deriving DecidableEq, Repr

/-- What a callback does for one path. -/
structure ScriptEntry where
  path : String
  reaction : CallbackReaction
  /-- Whether it does so for the first call only. -/
  once : Bool
deriving DecidableEq, Repr

/-- A debouncer, its callback and what has happened. -/
structure DebounceSession where
  debouncers : Debouncers
  callback : Option CallbackKind
  /-- Whether there is an event loop for coroutines. -/
  hasLoop : Bool
  /-- Whether a coroutine runs on a loop of its own. -/
  onOwnLoop : Bool
  script : List ScriptEntry
  /-- The calls of the callback, each with the time in milliseconds. -/
  calls : List (Path × Int)
  log : List Log.Entry

namespace DebounceSession

/-- A session at time zero. -/
def initial (delay : Delay) (label : String) (callback : Option CallbackKind)
    (script : List ScriptEntry) : DebounceSession where
  debouncers := Debouncers.initial.add (.initial delay label)
  callback := callback
  hasLoop := false
  onOwnLoop := false
  script := script
  calls := []
  log := []

/-- The session with other debouncers and a longer log. -/
def update (s : DebounceSession) (d : Debouncers) (log : List Log.Entry) : DebounceSession :=
  { s with debouncers := d, log := s.log ++ log }

/-- The entry of a callback that failed. -/
def failureEntry (s : DebounceSession) (p : Path) (text : String) : Log.Entry :=
  ⟨.error, "debounce_callback_failed",
    [("path", .string p.toString), ("error", .string text)]
      ++ (s.debouncers.all.map Debouncers.context).flatten⟩

/-- Disposes of the debouncer. -/
def dispose (s : DebounceSession) : DebounceSession :=
  let (d, log) := s.debouncers.dispose 0
  s.update d log

/-- Takes notice of a change. -/
def notify (s : DebounceSession) (p : Path) : DebounceSession :=
  { s with debouncers := s.debouncers.notify 0 p }

/-- The message of a loop that is asked for inside another one. -/
def nestedLoopText : String := "asyncio.run() cannot be called from a running event loop"

/--
What the callback does, and the words with which it fails, if it does. `flush` settles all pending
changes.
-/
def react (flush : DebounceSession → DebounceSession) (p : Path) (s : DebounceSession) :
    DebounceSession × Option String :=
  let s := { s with calls := s.calls ++ [(p, s.debouncers.clock.milliseconds)] }
  match s.script.find? (·.path == p.toString) with
  | none => (s, none)
  | some e =>
    let s := if e.once then { s with script := s.script.filter (·.path != e.path) } else s
    match e.reaction with
    | .fail text => (s, some text)
    | .notify q => (s.notify q, none)
    | .flush => (flush s, none)
    | .dispose => (s.dispose, none)

/-- The session after the callback, whose failure is logged where somebody sees it. -/
def callWith (flush : DebounceSession → DebounceSession) (p : Path) (s : DebounceSession) :
    DebounceSession :=
  let logged := fun (r : DebounceSession × Option String) =>
    match r with
    | (s, none) => s
    | (s, some text) => { s with log := s.log ++ [s.failureEntry p text] }
  match s.callback with
  | none => s
  | some .plain => logged (react flush p s)
  | some .coroutine =>
    if s.hasLoop then (react flush p s).1
    else if s.onOwnLoop then logged (s, some nestedLoopText)
    else
      let (s, failure) := react flush p { s with onOwnLoop := true }
      logged ({ s with onOwnLoop := false }, failure)

/-- The session as a host, with callbacks that nest up to a depth. -/
def host : Nat → DebounceHost DebounceSession
  | 0 => ⟨debouncers, update, fun _ _ s => s⟩
  | depth + 1 =>
    ⟨debouncers, update, fun _ p s => callWith (fun s => ((host depth).flush 0 s).1) p s⟩

end DebounceSession

end LiveTemplates
