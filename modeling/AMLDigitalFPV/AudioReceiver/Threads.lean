import AMLDigitalFPV.Library.Transition

namespace amldigitalfpv.audio_receiver

def kMaxQueueDepth : Nat := 256

abbrev Payload := List UInt8

/-- Where the thread of `play_loop` stands. A thread that has returned still
waits to be joined. -/
inductive PlayLoop where
  | creating_decoder
  | opening_stream
  | testing
  | dequeuing
  | returned
deriving DecidableEq, Repr

/-- Where the thread that calls `start` and `stop` stands, one call at a time. -/
inductive Caller where
  | idle
  | start_entered
  | start_storing
  | start_creating
  | stop_entered
  | stop_joining
  | stop_resetting
deriving DecidableEq, Repr

/-- Where the socket reader stands in `enqueue_payload`. -/
inductive Producer where
  | idle
  | sized (payload : Payload)
  | dropping
  | enqueued
deriving DecidableEq, Repr

/-- The members that the threads share. The thread object is present from its
creation to its reset, with the stage of its `play_loop`. -/
structure AudioReceiver where
  running_ : Bool := false
  play_thread_ : Option PlayLoop := none
  queue_ : List Payload := []
  pkt_count_ : Nat := 0
  drop_count_ : Nat := 0
deriving DecidableEq, Repr

/-- The receiver and its threads. `dequeued` lists the packets that `play_loop`
has taken, oldest first. -/
structure World where
  self : AudioReceiver := {}
  caller : Caller := .idle
  producer : Producer := .idle
  dequeued : List Payload := []
deriving DecidableEq, Repr

def AudioReceiver.is_running (self : AudioReceiver) : Bool := self.running_

/-- One step of `start` or of `stop`. A join waits until `play_loop` has
returned. -/
def World.call (w : World) : Option World :=
  match w.caller with
  | .idle => none
  | .start_entered =>
    some { w with caller := if w.self.running_ then .idle else .start_storing }
  | .start_storing =>
    some { w with self := { w.self with running_ := true }, caller := .start_creating }
  | .start_creating =>
    -- overwriting a thread that has not been joined terminates the process
    if w.self.play_thread_ = none then
      some
        { w with
          self := { w.self with play_thread_ := some .creating_decoder }
          caller := .idle }
    else
      none
  | .stop_entered =>
    some
      { w with
        self := { w.self with running_ := false }
        caller := if w.self.running_ then .stop_joining else .idle }
  | .stop_joining =>
    match w.self.play_thread_ with
    | none => some { w with caller := .idle }
    | some .returned => some { w with caller := .stop_resetting }
    | some _ => none
  | .stop_resetting =>
    some { w with self := { w.self with play_thread_ := none }, caller := .idle }

/-- One step of `enqueue_payload` after its entry. -/
def World.produce (w : World) : Option World :=
  match w.producer with
  | .idle => none
  | .sized payload =>
    some
      { w with
        self := { w.self with queue_ := w.self.queue_ ++ [payload] }
        producer := .enqueued }
  | .dropping =>
    some { w with self := { w.self with drop_count_ := w.self.drop_count_ + 1 }, producer := .idle }
  | .enqueued =>
    some { w with self := { w.self with pkt_count_ := w.self.pkt_count_ + 1 }, producer := .idle }

/-- The receiver with its `play_loop` at another stage. -/
def World.play (stage : PlayLoop) (w : World) : World :=
  { w with self := { w.self with play_thread_ := some stage } }

/-- What can happen next. -/
inductive Event where
  | start
  | stop
  | call
  | opus_decoder_create (ok : Bool)
  | pa_simple_new (ok : Bool)
  | loop_test
  | wait_dequeue_timed
  | enqueue_payload (payload : Option Payload)
  | produce
deriving DecidableEq, Repr

def step (w : World) : Event → Option World
  | .start => if w.caller = .idle then some { w with caller := .start_entered } else none
  | .stop => if w.caller = .idle then some { w with caller := .stop_entered } else none
  | .call => w.call
  | .opus_decoder_create ok =>
    if w.self.play_thread_ = some .creating_decoder then
      some (w.play (if ok then .opening_stream else .returned))
    else
      none
  | .pa_simple_new ok =>
    if w.self.play_thread_ = some .opening_stream then
      some (w.play (if ok then .testing else .returned))
    else
      none
  | .loop_test =>
    if w.self.play_thread_ = some .testing then
      some (w.play (if w.self.running_ then .dequeuing else .returned))
    else
      none
  | .wait_dequeue_timed =>
    if w.self.play_thread_ = some .dequeuing then
      match w.self.queue_ with
      | [] => some (w.play .testing)
      | payload :: rest =>
        some
          { w with
            self := { w.self with play_thread_ := some .testing, queue_ := rest }
            dequeued := w.dequeued ++ [payload] }
    else
      none
  | .enqueue_payload payload =>
    if w.producer = .idle then
      match payload with
      | none | some [] => some w
      | some payload =>
        some
          { w with
            producer :=
              if w.self.queue_.length > kMaxQueueDepth then .dropping else .sized payload }
    else
      none
  | .produce => w.produce

end amldigitalfpv.audio_receiver
