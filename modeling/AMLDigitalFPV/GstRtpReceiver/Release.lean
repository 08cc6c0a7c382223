import AMLDigitalFPV.GstRtpReceiver.ReceiverSpec
import AMLDigitalFPV.Library.Custody

open Transition

namespace amldigitalfpv.gst_rtp_receiver

/-- Everything acquired has been released once. -/
def Released (trace : List Action) : Prop :=
  ∀ resource handle, .acquire resource handle ∈ trace →
    trace.count (.release resource handle) = 1

/-- The call runs `stop_receiving` first. -/
def Call.stops (before : World) : Call → Prop
  | .stop_receiving | .switch_to_file_playback _ | .switch_to_stream _ => True
  | .start_receiving _ => before.self.m_gst_pipeline = none
  | _ => False

instance (before : World) : DecidablePred (Call.stops before) := by
  intro next
  unfold Call.stops
  split <;> infer_instance

/-- Whenever `stop_receiving` returns, everything acquired so far has been
released once. -/
def StopsReleaseAll (first : World) (calls : List Call) : Prop :=
  ∀ before next after, Takes step first calls before next after → next.stops before →
    Released (GstRtpReceiver.stop_receiving before).trace

/-- No element has been obtained before the stop, and the UDP socket, if there
is one, is one that the stop closes. -/
def NothingLost (before : World) (next : Call) : Prop :=
  next.stops before →
    (∀ handle, .acquire .element handle ∉ before.trace) ∧
      (before.self.unix_socket = false → before.self.sock ≠ none →
        before.self.m_udp_appsrc = true)

/-- What the members of the receiver hold on to. -/
def GstRtpReceiver.held (self : GstRtpReceiver) : Resource → Option Handle
  | .pull_samples_thread => self.m_pull_samples_thread
  | .read_socket_thread => self.m_read_socket_thread
  | .pipeline => self.m_gst_pipeline.map Pipeline.handle
  | .udp_socket => if self.unix_socket then none else self.sock
  | .element | .buffer_pool | .unix_socket => none

def Action.acquired : Action → Option (Resource × Handle)
  | .acquire resource handle => some (resource, handle)
  | .release .. => none

def Action.released (key : Resource × Handle) : Action := .release key.1 key.2

/-- An element or a buffer pool that has been acquired and not released. No
member holds on to either. -/
def Lost (trace : List Action) (key : Resource × Handle) : Prop :=
  (key.1 = .element ∨ key.1 = .buffer_pool) ∧ .acquire key.1 key.2 ∈ trace ∧
    .release key.1 key.2 ∉ trace

/-- What the trace and the members say of each other. -/
structure Ledger (w : World) : Prop where
  custody : Custody Action.acquired Action.released w.trace
    (fun key => key.1 ≠ .unix_socket ∧ w.handles ≤ key.2)
    (fun key => w.self.held key.1 = some key.2 ∨ Lost w.trace key)
  elements : ∀ handle, .release .element handle ∉ w.trace
  pools : ∀ handle, .acquire .buffer_pool handle ∈ w.trace →
    ∃ element, .acquire .element element ∈ w.trace
  unix : ∀ handle, .acquire .unix_socket handle ∉ w.trace

theorem acquired_released (key : Resource × Handle) :
    (Action.released key).acquired = none := rfl

theorem released_injective : Function.Injective Action.released := by
  rintro ⟨resource, handle⟩ ⟨resource', handle'⟩ heq
  cases heq
  rfl

theorem acquired_eq_some {action : Action} {resource : Resource} {handle : Handle} :
    action.acquired = some (resource, handle) ↔ action = .acquire resource handle := by
  cases action <;> simp [Action.acquired]

theorem Ledger.constructed (unix_socket : Option Handle) : Ledger (constructed unix_socket) where
  custody := by
    apply (Custody.nil _).congr (fun _ => id)
    rintro ⟨resource, handle⟩
    cases resource <;> cases unix_socket <;>
      simp [GstRtpReceiver.held, Lost, gst_rtp_receiver.constructed]
  elements _ := List.not_mem_nil
  pools _ hmem := absurd hmem List.not_mem_nil
  unix _ := List.not_mem_nil

section

variable {w : World} {resource : Resource} {self : GstRtpReceiver}

theorem Ledger.of_held (h : Ledger w) {after : World} (htrace : after.trace = w.trace)
    (hhandles : after.handles = w.handles) (hheld : after.self.held = w.self.held) :
    Ledger after := by
  obtain ⟨hcustody, helements, hpools, hunix⟩ := h
  constructor <;> rw [htrace]
  · rwa [hhandles, hheld]
  · exact helements
  · exact hpools
  · exact hunix

/-- Acquiring a resource uses up its handle. -/
theorem handle_used (resource : Resource) (key : Resource × Handle)
    (hfresh : key.1 ≠ .unix_socket ∧ (w.acquire resource).2.handles ≤ key.2) :
    (key.1 ≠ .unix_socket ∧ w.handles ≤ key.2) ∧ key ≠ (resource, w.handles) := by
  obtain ⟨hkind, hhandle⟩ := hfresh
  have hless : w.handles < key.2 := hhandle
  refine ⟨⟨hkind, Nat.le_of_lt hless⟩, ?_⟩
  rintro rfl
  simp at hless

/-- A resource that a member takes hold of. -/
theorem Ledger.acquire_held (h : Ledger w) (hunix : resource ≠ .unix_socket)
    (hkept : resource ≠ .element ∧ resource ≠ .buffer_pool) (hfree : w.self.held resource = none)
    (hself : ∀ other, self.held other =
      if other = resource then some w.handles else w.self.held other) :
    Ledger { (w.acquire resource).2 with self := self } := by
  constructor
  · refine h.custody.open_fresh (resource, w.handles) acquired_released rfl
      ⟨hunix, Nat.le_refl _⟩ (handle_used resource) ?_
    · rintro ⟨other, handle⟩
      have hlost : Lost (w.acquire resource).2.trace (other, handle) ↔
          Lost w.trace (other, handle) := by
        by_cases hother : other = resource
        · subst hother
          simp [Lost, hkept]
        · simp [Lost, World.acquire, hother]
      rw [hlost, hself]
      by_cases hother : other = resource
      · subst hother
        simp [Lost, hkept, hfree, eq_comm]
      · simp [hother]
  · intro handle
    simpa [World.acquire] using h.elements handle
  · intro handle hmem
    have hbefore : .acquire .buffer_pool handle ∈ w.trace := by
      simpa [World.acquire, Ne.symm hkept.2] using hmem
    obtain ⟨element, helement⟩ := h.pools handle hbefore
    exact ⟨element, List.mem_append_left _ helement⟩
  · intro handle
    simpa [World.acquire, Ne.symm hunix] using h.unix handle

/-- A resource that nothing takes hold of. -/
theorem Ledger.acquire_lost (h : Ledger w) (resource : Resource)
    (hlost : resource = .element ∨
      (resource = .buffer_pool ∧ ∃ element, .acquire .element element ∈ w.trace)) :
    Ledger (w.acquire resource).2 := by
  have hunix : resource ≠ .unix_socket := by
    rcases hlost with rfl | ⟨rfl, -⟩ <;> decide
  have hunused := (h.custody.unused (resource, w.handles) ⟨hunix, Nat.le_refl _⟩).2
  constructor
  · refine h.custody.open_fresh (resource, w.handles) acquired_released rfl
      ⟨hunix, Nat.le_refl _⟩ (handle_used resource) ?_
    · rintro ⟨other, handle⟩
      by_cases hsame : (other, handle) = (resource, w.handles)
      · cases hsame
        have hmember : w.self.held resource ≠ some w.handles := by
          rcases hlost with rfl | ⟨rfl, -⟩ <;> exact nofun
        have hnever : .release resource w.handles ∉ w.trace := hunused
        have hkind := hlost.imp id And.left
        simp [Lost, World.acquire, hkind, hnever]
      · have hnew : ¬ (other = resource ∧ handle = w.handles) := by simpa using hsame
        simp [Lost, World.acquire, hnew]
  · intro handle
    simpa [World.acquire] using h.elements handle
  · intro handle hmem
    obtain rfl | ⟨rfl, element, helement⟩ := hlost
    · exact ⟨w.handles, by simp [World.acquire]⟩
    · exact ⟨element, List.mem_append_left _ helement⟩
  · intro handle
    simpa [World.acquire, Ne.symm hunix] using h.unix handle

/-- The release of anything but an element matters to the custody only. -/
theorem Ledger.of_release (h : Ledger w) (resource : Resource) (handle : Handle)
    (hkind : resource ≠ .element)
    (hcustody : Custody Action.acquired Action.released (w.release resource handle).trace
      (fun key => key.1 ≠ .unix_socket ∧ w.handles ≤ key.2)
      (fun key => self.held key.1 = some key.2 ∨ Lost (w.release resource handle).trace key)) :
    Ledger { w.release resource handle with self := self } := by
  constructor
  · exact hcustody
  · intro handle'
    simpa [World.release, Ne.symm hkind] using h.elements handle'
  · intro handle' hmem
    have hbefore : .acquire .buffer_pool handle' ∈ w.trace := by
      simpa [World.release] using hmem
    obtain ⟨element, helement⟩ := h.pools handle' hbefore
    exact ⟨element, List.mem_append_left _ helement⟩
  · intro handle'
    simpa [World.release] using h.unix handle'

/-- The socket of the constructor, which is none of the resources acquired. -/
theorem Ledger.release_unix (h : Ledger w) (handle : Handle) :
    Ledger (w.release .unix_socket handle) := by
  have hacquired : Action.acquired (.release .unix_socket handle) = none := rfl
  apply h.of_release .unix_socket handle (by simp)
  have hreleased := h.custody.append hacquired ?_
  · apply hreleased.congr (fun _ => id)
    rintro ⟨other, handle'⟩
    have hlost : Lost (w.release .unix_socket handle).trace (other, handle') ↔
        Lost w.trace (other, handle') := by
      cases other <;> simp [Lost, World.release]
    rw [hlost]
  · rintro ⟨other, handle'⟩ heq
    cases heq
    refine ⟨fun hfresh => hfresh.1 rfl, fun action hmem haction => ?_⟩
    rw [acquired_eq_some.mp haction] at hmem
    exact h.unix _ hmem

/-- A pool that is of no use. -/
theorem Ledger.release_pool (h : Ledger w) {handle : Handle}
    (hlost : Lost w.trace (.buffer_pool, handle)) : Ledger (w.release .buffer_pool handle) := by
  apply h.of_release .buffer_pool handle (by simp)
  refine h.custody.close_held (.buffer_pool, handle) acquired_released released_injective
    (.inr hlost) ?_
  rintro ⟨other, handle'⟩
  by_cases hsame : other = .buffer_pool ∧ handle' = handle
  · obtain ⟨rfl, rfl⟩ := hsame
    simp [Lost, World.release, GstRtpReceiver.held]
  · have hlost' : Lost (w.release .buffer_pool handle).trace (other, handle') ↔
        Lost w.trace (other, handle') := by
      simp [Lost, World.release, hsame]
    rw [hlost']
    simp [hsame]

/-- A resource that a member lets go of. -/
theorem Ledger.release_all (h : Ledger w)
    (hself : ∀ other, self.held other = if other = resource then none else w.self.held other) :
    Ledger { w.release_all resource (w.self.held resource) with self := self } := by
  cases hheld : w.self.held resource with
  | none =>
    refine h.of_held rfl rfl (funext fun other => ?_)
    rw [hself]
    split
    · next heq => rw [heq, hheld]
    · rfl
  | some handle =>
    have hkept : resource ≠ .element ∧ resource ≠ .buffer_pool := by
      constructor <;> rintro rfl <;> cases hheld
    apply h.of_release resource handle hkept.1
    refine h.custody.close_held (resource, handle) acquired_released released_injective
      (.inl hheld) ?_
    rintro ⟨other, handle'⟩
    rw [hself]
    by_cases hother : other = resource
    · subst hother
      simp [Lost, hkept, hheld, eq_comm]
    · simp [Lost, World.release, hother]

theorem Ledger.release_update (h : Ledger w) (resource : Resource)
    (f : GstRtpReceiver → GstRtpReceiver)
    (hf : ∀ other, (f w.self).held other = if other = resource then none else w.self.held other) :
    Ledger ((w.release_all resource (w.self.held resource)).update f) := by
  apply h.release_all
  intro other
  rw [World.release_all_self]
  exact hf other

theorem Ledger.join_threads (h : Ledger w) : Ledger (GstRtpReceiver.join_threads w) := by
  have hcleared : Ledger (w.update fun self =>
      { self with m_pull_samples_run := false, m_read_socket_run := false }) :=
    h.of_held rfl rfl (funext fun other => by cases other <;> rfl)
  have hpulled := hcleared.release_update .pull_samples_thread
    (fun self => { self with m_pull_samples_thread := none })
    (fun other => by cases other <;> rfl)
  exact hpulled.release_update .read_socket_thread
    (fun self => { self with m_read_socket_thread := none })
    (fun other => by cases other <;> rfl)

theorem Ledger.drop_pipeline (h : Ledger w) : Ledger (GstRtpReceiver.drop_pipeline w) :=
  h.release_update .pipeline (fun self => { self with m_gst_pipeline := none })
    (fun other => by cases other <;> rfl)

theorem Ledger.close_socket (h : Ledger w) : Ledger (GstRtpReceiver.close_socket w) := by
  unfold GstRtpReceiver.close_socket
  split
  · cases hunix : w.self.unix_socket with
    | true =>
      have hclosed : Ledger (w.release_all .unix_socket w.self.sock) := by
        cases w.self.sock with
        | none => exact h
        | some handle => exact h.release_unix handle
      refine hclosed.of_held rfl rfl (funext fun other => ?_)
      cases other <;> simp [World.update, GstRtpReceiver.held, hunix]
    | false =>
      have hheld : w.self.held .udp_socket = w.self.sock := by simp [GstRtpReceiver.held, hunix]
      have hclosed := h.release_update .udp_socket (fun self => { self with sock := none })
        (fun other => by cases other <;> simp [GstRtpReceiver.held])
      rw [hheld] at hclosed
      exact hclosed
  · exact h

theorem Ledger.stop_receiving (h : Ledger w) : Ledger (GstRtpReceiver.stop_receiving w) :=
  h.join_threads.drop_pipeline.close_socket

end

/-- The threads and the pipeline are gone. -/
structure Stopped (receiver : GstRtpReceiver) : Prop where
  pull_samples_thread : receiver.m_pull_samples_thread = none
  read_socket_thread : receiver.m_read_socket_thread = none
  pipeline : receiver.m_gst_pipeline = none

section

variable {w : World} (launch : Launch)

theorem stop_receiving_stopped : Stopped (GstRtpReceiver.stop_receiving w).self := by
  unfold GstRtpReceiver.stop_receiving GstRtpReceiver.close_socket
  split <;> constructor <;>
    simp [GstRtpReceiver.drop_pipeline, GstRtpReceiver.join_threads, World.update]

/-- Only a UDP socket can be left, and only without `m_udp_appsrc`. -/
theorem stop_receiving_held (resource : Resource) :
    (GstRtpReceiver.stop_receiving w).self.held resource =
      if resource = .udp_socket ∧ w.self.m_udp_appsrc = false then w.self.held resource
      else none := by
  have hstopped := stop_receiving_stopped (w := w)
  cases resource with
  | pull_samples_thread => exact hstopped.pull_samples_thread
  | read_socket_thread => exact hstopped.read_socket_thread
  | pipeline => simp [GstRtpReceiver.held, hstopped.pipeline]
  | udp_socket =>
    cases hudp : w.self.m_udp_appsrc <;>
      simp [GstRtpReceiver.stop_receiving, GstRtpReceiver.close_socket,
        GstRtpReceiver.drop_pipeline, GstRtpReceiver.join_threads, GstRtpReceiver.held,
        World.update, hudp]
  | element | buffer_pool | unix_socket => rfl

theorem release_all_acquires (resource other : Resource) (handle : Handle)
    (handles : Option Handle) :
    .acquire other handle ∈ (w.release_all resource handles).trace ↔
      .acquire other handle ∈ w.trace := by
  cases handles <;> simp [World.release_all, World.release]

theorem stop_receiving_acquires (resource : Resource) (handle : Handle) :
    .acquire resource handle ∈ (GstRtpReceiver.stop_receiving w).trace ↔
      .acquire resource handle ∈ w.trace := by
  unfold GstRtpReceiver.stop_receiving GstRtpReceiver.close_socket
  split <;>
    simp [GstRtpReceiver.drop_pipeline, GstRtpReceiver.join_threads, World.update,
      release_all_acquires]

theorem Ledger.construct_pipeline (h : Ledger w) (hpipeline : w.self.m_gst_pipeline = none) :
    Ledger (GstRtpReceiver.construct_pipeline launch w).2 := by
  have hkept : Ledger ((w.acquire .pipeline).2.update fun self =>
      { self with m_gst_pipeline := some { handle := w.handles } }) := by
    refine h.acquire_held (by simp) (by simp) ?_ fun other => ?_
    · simp [GstRtpReceiver.held, hpipeline]
    · cases other <;> rfl
  unfold GstRtpReceiver.construct_pipeline
  cases launch.object with
  | null => exact h
  | element =>
    cases launch.error with
    | false => exact h.acquire_lost .element (.inl rfl)
    | true => exact hkept
  | pipeline => cases launch.error <;> exact hkept

theorem Ledger.create_udp_socket (h : Ledger w) :
    Ledger (GstRtpReceiver.create_udp_socket launch w).2 := by
  unfold GstRtpReceiver.create_udp_socket
  split
  · next hneeded =>
    obtain ⟨-, hunix, hsock⟩ := hneeded
    split
    · refine h.acquire_held (by simp) (by simp) ?_ fun other => ?_
      · simp [GstRtpReceiver.held, hsock]
      · cases other <;> simp_all [GstRtpReceiver.held, World.acquire]
    · exact h
  · exact h

theorem Ledger.setup_appsrc_buffer_pool (h : Ledger w)
    (helement : ∃ element, .acquire .element element ∈ w.trace) :
    Ledger (GstRtpReceiver.setup_appsrc_buffer_pool launch w) := by
  have hpool := h.acquire_lost .buffer_pool (.inr ⟨rfl, helement⟩)
  unfold GstRtpReceiver.setup_appsrc_buffer_pool
  split
  · exact hpool
  · refine hpool.release_pool ⟨.inr rfl, by simp [World.acquire], ?_⟩
    have hunused := (h.custody.unused (.buffer_pool, w.handles) ⟨by simp, Nat.le_refl _⟩).2
    simpa [World.acquire, Action.released] using hunused

theorem setup_appsrc_buffer_pool_self :
    (GstRtpReceiver.setup_appsrc_buffer_pool launch w).self = w.self := by
  unfold GstRtpReceiver.setup_appsrc_buffer_pool
  dsimp only
  split <;> rfl

theorem Ledger.start_read_socket (h : Ledger w) (hthread : w.self.m_read_socket_thread = none) :
    Ledger (GstRtpReceiver.start_read_socket launch w).2 := by
  unfold GstRtpReceiver.start_read_socket
  split
  · split
    · have hpool := (h.acquire_lost .element (.inl rfl)).setup_appsrc_buffer_pool
        launch ⟨w.handles, by simp [World.acquire]⟩
      have hself := setup_appsrc_buffer_pool_self launch (w := (w.acquire .element).2)
      refine hpool.acquire_held (by simp) (by simp) ?_ fun other => ?_
      · rw [hself]
        exact hthread
      · cases other <;> rfl
    · exact h
  · exact h

theorem Ledger.start_playing (h : Ledger w) (hthread : w.self.m_pull_samples_thread = none) :
    Ledger (GstRtpReceiver.start_playing launch w) := by
  unfold GstRtpReceiver.start_playing
  split
  · have helement := h.acquire_lost .element (.inl rfl)
    refine helement.acquire_held (by simp) (by simp) hthread fun other => ?_
    cases other <;> try rfl
    cases hpipeline : w.self.m_gst_pipeline <;> simp [GstRtpReceiver.held, World.acquire, hpipeline]
    split <;> rfl
  · exact h.of_held rfl rfl (funext fun other => by cases other <;> rfl)

theorem construct_pipeline_threads :
    (GstRtpReceiver.construct_pipeline launch w).2.self.m_pull_samples_thread =
        w.self.m_pull_samples_thread ∧
      (GstRtpReceiver.construct_pipeline launch w).2.self.m_read_socket_thread =
        w.self.m_read_socket_thread := by
  unfold GstRtpReceiver.construct_pipeline
  split <;> exact ⟨rfl, rfl⟩

theorem create_udp_socket_threads :
    (GstRtpReceiver.create_udp_socket launch w).2.self.m_pull_samples_thread =
        w.self.m_pull_samples_thread ∧
      (GstRtpReceiver.create_udp_socket launch w).2.self.m_read_socket_thread =
        w.self.m_read_socket_thread := by
  unfold GstRtpReceiver.create_udp_socket
  split
  · split <;> exact ⟨rfl, rfl⟩
  · exact ⟨rfl, rfl⟩

theorem start_read_socket_thread :
    (GstRtpReceiver.start_read_socket launch w).2.self.m_pull_samples_thread =
      w.self.m_pull_samples_thread := by
  unfold GstRtpReceiver.start_read_socket
  split
  · split
    · simp [World.update, World.acquire, setup_appsrc_buffer_pool_self]
    · rfl
  · rfl

theorem Ledger.switch_to_file_playback (h : Ledger w) :
    Ledger (GstRtpReceiver.switch_to_file_playback launch w) := by
  have hstopped := stop_receiving_stopped (w := w)
  have hconstructed := h.stop_receiving.construct_pipeline launch hstopped.pipeline
  have hthreads := construct_pipeline_threads launch
    (w := GstRtpReceiver.stop_receiving w)
  unfold GstRtpReceiver.switch_to_file_playback
  dsimp only
  split
  · exact hconstructed.start_playing launch (hthreads.1.trans hstopped.pull_samples_thread)
  · exact hconstructed

theorem Ledger.switch_to_stream (h : Ledger w) :
    Ledger (GstRtpReceiver.switch_to_stream launch w) := by
  have hstopped := stop_receiving_stopped (w := w)
  have hconstructed := h.stop_receiving.construct_pipeline launch hstopped.pipeline
  have hcreated := hconstructed.create_udp_socket launch
  obtain ⟨hpull, hread⟩ := construct_pipeline_threads launch
    (w := GstRtpReceiver.stop_receiving w)
  obtain ⟨hpull', hread'⟩ := create_udp_socket_threads launch
    (w := (GstRtpReceiver.construct_pipeline launch (GstRtpReceiver.stop_receiving w)).2)
  have hstarted := hcreated.start_read_socket launch
    (hread'.trans (hread.trans hstopped.read_socket_thread))
  unfold GstRtpReceiver.switch_to_stream
  dsimp only
  split
  · split
    · split
      · apply hstarted.start_playing launch
        rw [start_read_socket_thread, hpull', hpull, hstopped.pull_samples_thread]
      · exact hstarted
    · exact hcreated
  · exact hconstructed

end

namespace GstRtpReceiver

variable (self : GstRtpReceiver)

theorem seek_held (seek : Seek) : (self.seek seek).held = self.held := by
  funext resource
  cases resource <;> try rfl
  simp [GstRtpReceiver.seek, held, Function.comp_def]

theorem change_state_held (state : GstState) : (self.change_state state).held = self.held := by
  funext resource
  cases resource <;> try rfl
  simp [change_state, held, Function.comp_def]

theorem set_playback_rate_held (rate : ℚ) (accepted : Bool) :
    (self.set_playback_rate rate accepted).held = self.held := by
  unfold set_playback_rate
  split
  · rfl
  · split
    · exact self.seek_held _
    · rfl

theorem pause_held (set_state get_state : Bool) :
    (self.pause set_state get_state).held = self.held := by
  have hpaused := change_state_held { self with m_pre_pause_rate := self.m_playback_rate } .PAUSED
  unfold pause
  dsimp only
  split
  · rfl
  · split
    · rfl
    · split
      · rfl
      · split <;> exact hpaused

theorem resume_held (set_state accepted : Bool) :
    (self.resume set_state accepted).held = self.held := by
  unfold resume
  dsimp only
  split
  · rfl
  · split
    · rfl
    · split
      · rfl
      · split
        · exact (set_playback_rate_held _ _ _).trans (self.change_state_held _)
        · exact self.change_state_held _

theorem skip_duration_held (skip_ms : Int) (position : Option Int) (accepted : Bool) :
    (self.skip_duration skip_ms position accepted).held = self.held := by
  unfold skip_duration
  dsimp only
  split
  · rfl
  · split
    · rfl
    · cases position with
      | none => rfl
      | some current_pos =>
        dsimp only
        split <;> first | exact self.seek_held _ | rfl

end GstRtpReceiver

theorem call_ledger {w : World} (h : Ledger w) (next : Call) : Ledger (call w next) := by
  cases next with
  | start_receiving launch =>
    change Ledger (GstRtpReceiver.start_receiving launch w)
    unfold GstRtpReceiver.start_receiving
    split
    · exact h.switch_to_stream launch
    · exact h.of_held rfl rfl rfl
  | stop_receiving => exact h.stop_receiving
  | switch_to_file_playback launch => exact h.switch_to_file_playback launch
  | switch_to_stream launch => exact h.switch_to_stream launch
  | set_udp_appsrc enable =>
    exact h.of_held rfl rfl (funext fun other => by cases other <;> rfl)
  | fast_forward rate accepted =>
    exact h.of_held rfl rfl (w.self.set_playback_rate_held _ accepted)
  | fast_rewind rate accepted =>
    exact h.of_held rfl rfl (w.self.set_playback_rate_held _ accepted)
  | normal_playback accepted => exact h.of_held rfl rfl (w.self.set_playback_rate_held 1 accepted)
  | pause set_state get_state => exact h.of_held rfl rfl (w.self.pause_held set_state get_state)
  | resume set_state accepted => exact h.of_held rfl rfl (w.self.resume_held set_state accepted)
  | skip_duration skip_ms position accepted =>
    exact h.of_held rfl rfl (w.self.skip_duration_held skip_ms position accepted)

/-- What is not released after a stop: elements, the pools that came with them,
and a socket that only `m_udp_appsrc` would have closed. -/
theorem released_iff {w : World} (h : Ledger w) :
    Released (GstRtpReceiver.stop_receiving w).trace ↔
      (∀ handle, .acquire .element handle ∉ w.trace) ∧
        (w.self.unix_socket = false → w.self.sock ≠ none → w.self.m_udp_appsrc = true) := by
  have hafter := h.stop_receiving
  have hreleased : Released (GstRtpReceiver.stop_receiving w).trace ↔
      ∀ key : Resource × Handle,
        ¬ ((GstRtpReceiver.stop_receiving w).self.held key.1 = some key.2 ∨
          Lost (GstRtpReceiver.stop_receiving w).trace key) := by
    rw [← hafter.custody.all_closed_iff]
    constructor
    · rintro hall action hmem ⟨resource, handle⟩ haction
      rw [acquired_eq_some.mp haction] at hmem
      exact hall resource handle hmem
    · exact fun hall resource handle hmem => hall _ hmem (resource, handle) rfl
  rw [hreleased]
  constructor
  · intro hnone
    constructor
    · intro handle hmem
      exact hnone (.element, handle) (.inr ⟨.inl rfl, (stop_receiving_acquires _ _).mpr hmem,
        hafter.elements handle⟩)
    · intro hunix hsock
      by_contra hudp
      obtain ⟨sock, hsome⟩ := Option.ne_none_iff_exists'.mp hsock
      refine hnone (.udp_socket, sock) (.inl ?_)
      rw [stop_receiving_held, if_pos ⟨rfl, by simpa using hudp⟩]
      simp [GstRtpReceiver.held, hunix, hsome]
  · rintro ⟨helements, hsocket⟩ ⟨resource, handle⟩ (hheld | ⟨hkind, hacquired, -⟩)
    · rw [stop_receiving_held] at hheld
      split at hheld
      · next hudp =>
        obtain ⟨rfl, hudp⟩ := hudp
        cases hunix : w.self.unix_socket with
        | true => simp [GstRtpReceiver.held, hunix] at hheld
        | false =>
          have hsock : w.self.sock = some handle := by
            simpa [GstRtpReceiver.held, hunix] using hheld
          have hclosed := hsocket hunix (by simp [hsock])
          rw [hudp] at hclosed
          cases hclosed
      · cases hheld
    · have hbefore := (stop_receiving_acquires resource handle).mp hacquired
      obtain hkind | hkind := hkind
      · rw [show resource = .element from hkind] at hbefore
        exact helements handle hbefore
      · rw [show resource = .buffer_pool from hkind] at hbefore
        obtain ⟨element, helement⟩ := h.pools handle hbefore
        exact helements element helement

/-- References to elements are never released, and a socket is closed only while
`m_udp_appsrc` is set. -/
theorem stops_release_all_iff (unix_socket : Option Handle) (calls : List Call) :
    StopsReleaseAll (constructed unix_socket) calls ↔
      ∀ before next after, Takes step (constructed unix_socket) calls before next after →
        NothingLost before next := by
  refine takes_iff_of_steps (P := Ledger) (.constructed unix_socket) ?_ ?_
  · intro before next after hstep hledger _
    rw [step_eq hstep]
    exact call_ledger hledger next
  · intro before next after _ hledger
    simp only [NothingLost, released_iff hledger]

theorem stops_release_all_counterexample :
    ¬ StopsReleaseAll (constructed none) [.start_receiving {}, .stop_receiving] := by
  intro h
  have hreleased := h (call (constructed none) (.start_receiving {})) .stop_receiving
    (GstRtpReceiver.stop_receiving (call (constructed none) (.start_receiving {})))
    ⟨[.start_receiving {}], [], rfl, rfl, rfl⟩ trivial
  exact absurd (hreleased .element 1 (by decide)) (by decide)

end amldigitalfpv.gst_rtp_receiver
