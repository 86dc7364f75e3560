import Courtside.Bodies.Frames
import Courtside.Clip.Queues

/-!
# The live clip, from the camera to the disk

The phone and the server together.  A batch that `bufferQueue` hands out becomes a request,
whose body is written by `sendFrames`; the server parses the body and starts an
`upload_clips` handler on the files that it finds.  Requests arrive in any order and at any
time, while the camera goes on.

If the queues keep the sessions apart and the handlers their files, what is on disk when all
handlers have returned are ten frames that the camera captured one after the other in one
session (`live_clip_end_to_end`).  The invariant (`LiveSafe`) joins those of the two sides: the
files that a handler is given are those of its batch, because no frame contains a boundary,
and a batch that is sent later does not concern the handlers of those before.
-/

universe u

namespace Courtside

/-! ## Requests -/

/-- A part as an item of `frames: List[UploadFile]`. -/
def FormPart.uploadFile? (part : FormPart) : Option UploadFile :=
  if part.name = octets "frames" then
    (part.filename.bind decodeUtf8).map fun filename ↦ { filename, data := part.content }
  else none

theorem uploadFile?_part (file : UploadFile) : file.part.uploadFile? = some file := by
  rw [FormPart.uploadFile?, UploadFile.part, if_pos rfl, Option.bind_some, decodeUtf8_octets]
  rfl

/-- The frames of a batch. -/
def jpegs (batch : List (Captured Octets)) : List Octets := batch.map Captured.jpegData

variable (q : QuotedText) (uuid : ℕ → UUID)

/-- The files that reach the server with a body. -/
def receivedFiles (boundary : String) (body : Octets) : Option (List UploadFile) :=
  (parseMultipart q (octets boundary) body).map fun parts ↦
    parts.filterMap FormPart.uploadFile?

/-- Request `r` is that of batch `r`, with a boundary of its own. -/
def request (phone : ClipModel Octets) (r : ℕ) : Option (List UploadFile) :=
  phone.buffer.sent[r]?.bind fun batch ↦
    receivedFiles q (uuid r).boundary (sendFramesBody (uuid r).boundary (jpegs batch))

/-- A frame that contains none of the boundaries. -/
def Clean (jpegData : Octets) : Prop := ∀ r, ¬ octets (uuid r).boundary <:+: jpegData

/-! ## The system -/

variable {Image : Type u} (cwd : Path)

/-- One action of `upload_clips` handlers that are called with some files. -/
def stepUploadClips (requests : ℕ → Option (List UploadFile)) (s : ClipHandlers Image) :
    HandlerAction → Option (ClipHandlers Image)
  | .start r =>
      match requests r, s.phase r with
      | some files, .waiting =>
          let (phase, disk) := openFrame cwd files 0 s.disk
          some { disk, phase := Function.update s.phase r phase }
      | _, _ => none
  | .resume r =>
      match requests r, s.phase r with
      | some files, .writing index handle =>
          match files[index]? with
          | some file =>
              let disk := s.disk.modify handle (File.overwrite file.data)
              let (phase, disk) := openFrame cwd files (index + 1) disk
              some { disk, phase := Function.update s.phase r phase }
          | none => none
      | _, _ => none
  | .raise r =>
      match requests r, s.phase r with
      | some _, .waiting | some _, .writing _ _ =>
          some { s with phase := Function.update s.phase r .raised }
      | _, _ => none

/-- The phone and the server. -/
structure LiveClip (Image : Type u) where
  phone : ClipModel Octets
  server : ClipHandlers Image

/-- A new model, and a server at which no request has arrived. -/
def LiveClip.start (disk : ServerDisk Image) : LiveClip Image where
  phone := .new
  server := .start disk

inductive LiveAction where
  | phone (a : ClipAction Octets)
  | server (a : HandlerAction)
deriving DecidableEq

/-- One action on either side. -/
def stepLive (s : LiveClip Image) : LiveAction → Option (LiveClip Image)
  | .phone a => (stepClip s.phone a).map fun phone ↦ { s with phone }
  | .server a =>
      (stepUploadClips cwd (request q uuid s.phone) s.server a).map fun server ↦ { s with server }

/-- The batches that have been sent, without their sessions. -/
def ClipModel.batches (phone : ClipModel Octets) : List (List Octets) := phone.buffer.sent.map jpegs

/-- The frames that have been captured, in order. -/
def capturedFrames (actions : List LiveAction) : List Octets :=
  actions.filterMap fun
    | .phone (.enqueue jpegData) => some jpegData
    | _ => none

/-- Frames are clean and get to `bufferQueue` in time, and handlers open files that no other
has open. -/
def InOrder (s : LiveClip Image) : LiveAction → Prop
  | .phone a => InTime s.phone a ∧ ∀ jpegData, a = .enqueue jpegData → Clean uuid jpegData
  | .server a => Apart s.phone.batches s.server a

variable {q uuid cwd}

/-! ## What the handlers are given -/

/-- Handlers of batches are handlers with the files of these. -/
theorem stepHandler_eq (batches : List (List Octets)) :
    (stepHandler cwd batches : ClipHandlers Image → HandlerAction → _) =
      stepUploadClips cwd fun r ↦ batches[r]?.map sendFrames := by
  funext s a
  cases a with
  | start r =>
      rw [stepHandler, stepUploadClips]
      cases batches[r]? <;> cases s.phase r <;> rfl
  | resume r =>
      rw [stepHandler, stepUploadClips]
      cases batches[r]? <;> cases s.phase r <;> rfl
  | raise r =>
      rw [stepHandler, stepUploadClips]
      cases batches[r]? <;> cases s.phase r <;> rfl

/-- A batch of clean frames is received as it was sent. -/
theorem receivedFiles_eq {r : ℕ} {frames : List Octets} (hne : frames ≠ [])
    (hclean : ∀ frame ∈ frames, Clean uuid frame) :
    receivedFiles q (uuid r).boundary (sendFramesBody (uuid r).boundary frames) =
      some (sendFrames frames) := by
  have hparts := parseMultipart_sendFramesBody q (uuid r) hne fun frame hframe ↦
    hclean frame hframe r
  have hfiles : ∀ files : List UploadFile,
      (files.map UploadFile.part).filterMap FormPart.uploadFile? = files := by
    intro files
    induction files with
    | nil => rfl
    | cons file files ih =>
        rw [List.map_cons, List.filterMap_cons_some (uploadFile?_part file), ih]
  rw [receivedFiles, hparts, Option.map_some, hfiles]

/-- The handlers are those of the batches. -/
theorem request_eq {phone : ClipModel Octets}
    (hten : ∀ batch ∈ phone.buffer.sent, batch.length = 10)
    (hclean : ∀ batch ∈ phone.buffer.sent, ∀ frame ∈ jpegs batch, Clean uuid frame) (r : ℕ) :
    request q uuid phone r = phone.batches[r]?.map sendFrames := by
  rw [request, ClipModel.batches, List.getElem?_map]
  cases hbatch : phone.buffer.sent[r]? with
  | none => rfl
  | some batch =>
      have hmem := List.mem_of_getElem? hbatch
      have hne : jpegs batch ≠ [] := by
        intro hnil
        have hlength := hten batch hmem
        rw [jpegs, List.map_eq_nil_iff] at hnil
        rw [hnil] at hlength
        cases hlength
      rw [Option.bind_some, receivedFiles_eq hne (hclean batch hmem)]
      rfl

/-! ## More batches -/

section Mono

variable {batches batches' : List (List Octets)} {s : ClipHandlers Image}

theorem getElem?_of_prefix (h : batches <+: batches') {r : ℕ} {batch : List Octets}
    (hbatch : batches[r]? = some batch) : batches'[r]? = some batch := by
  obtain ⟨more, rfl⟩ := h
  rw [List.getElem?_append_left (List.getElem?_eq_some_iff.mp hbatch).1, hbatch]

/-- A batch that is sent later does not concern the handlers. -/
theorem ClipSafe.mono (h : ClipSafe cwd batches s) (hbatches : batches <+: batches') :
    ClipSafe cwd batches' s := by
  have hlength := hbatches.length_le
  rcases h with ⟨r, hr, hraised⟩ | h
  · exact .inl ⟨r, Nat.lt_of_lt_of_le hr hlength, hraised⟩
  refine .inr ⟨fun r index handle hphase ↦ ?_, h.apart, ?_⟩
  · obtain ⟨hr, hrest⟩ := h.opened r index handle hphase
    exact ⟨Nat.lt_of_lt_of_le hr hlength, hrest⟩
  · rcases h.hindmost with hwaiting | ⟨m, batch, hm⟩
    · exact .inl hwaiting
    · exact .inr ⟨m, batch, getElem?_of_prefix hbatches hm.mem, hm.started, hm.ahead, hm.written⟩

end Mono

/-! ## What is captured -/

/-- The frames of append blocks. -/
def appended (blocks : List (Block (Captured Octets))) : List Octets :=
  blocks.filterMap fun
    | .append frame => some frame.jpegData
    | .clear => none

theorem appended_append (blocks blocks' : List (Block (Captured Octets))) :
    appended (blocks ++ blocks') = appended blocks ++ appended blocks' := List.filterMap_append

open FrameBuffer

/-- Each batch consists of frames that were appended one after the other, and the buffer of
the last of them. -/
theorem infix_appended (blocks : List (Block (Captured Octets))) :
    (∀ batch ∈ (new.runBlocks blocks).sent, jpegs batch <:+: appended blocks) ∧
      jpegs (new.runBlocks blocks).frameBuffer <:+ appended blocks := by
  induction blocks using List.reverseRecOn with
  | nil => exact ⟨fun batch hbatch ↦ (nomatch hbatch), List.suffix_rfl⟩
  | append_singleton blocks block ih =>
      obtain ⟨hsent, hbuffer⟩ := ih
      rw [runBlocks_append, appended_append]
      cases block with
      | append frame =>
          have hsuffix : jpegs ((new.runBlocks blocks).frameBuffer ++ [frame]) <:+
              appended blocks ++ appended [.append frame] := by
            obtain ⟨before, hbefore⟩ := hbuffer
            refine ⟨before, ?_⟩
            rw [jpegs, List.map_append, ← jpegs, ← List.append_assoc, hbefore]
            rfl
          have hold : ∀ batch ∈ (new.runBlocks blocks).sent,
              jpegs batch <:+: appended blocks ++ appended [.append frame] :=
            fun batch hbatch ↦ (hsent batch hbatch).trans (List.prefix_append _ _).isInfix
          rcases (new.runBlocks blocks).append_cases frame with ⟨-, happend⟩ | ⟨-, happend⟩
          · have hrun : (new.runBlocks blocks).runBlocks [.append frame] = _ := happend
            rw [hrun]
            refine ⟨fun batch hbatch ↦ ?_, List.nil_suffix⟩
            rcases List.mem_append.mp hbatch with hbatch | hbatch
            · exact hold batch hbatch
            · rw [List.mem_singleton.mp hbatch]
              exact hsuffix.isInfix
          · have hrun : (new.runBlocks blocks).runBlocks [.append frame] = _ := happend
            rw [hrun]
            exact ⟨hold, hsuffix⟩
      | clear =>
          refine ⟨fun batch hbatch ↦ ?_, List.nil_suffix⟩
          rw [show appended [.clear] = [] from rfl, List.append_nil]
          exact hsent batch hbatch

/-! ## The invariant -/

/-- What `bufferQueue` has done and still has to do. -/
def Queued (phone : ClipModel Octets) (frames : List Octets) : Prop :=
  ∃ ran, phone.buffer = new.runBlocks ran ∧ appended (ran ++ phone.bufferQueue) = frames

/-- Both sides are safe, and everything that has been captured is clean. -/
structure LiveSafe (cwd : Path) (uuid : ℕ → UUID) (actions : List LiveAction)
    (s : LiveClip Image) : Prop where
  separated : Separated s.phone
  queued : Queued s.phone (capturedFrames actions)
  clean : ∀ frame ∈ capturedFrames actions, Clean uuid frame
  handlers : ClipSafe cwd s.phone.batches s.server

theorem Queued.batch {phone : ClipModel Octets} {frames : List Octets} (h : Queued phone frames) :
    (∀ batch ∈ phone.buffer.sent, batch.length = 10) ∧
      ∀ batch ∈ phone.buffer.sent, jpegs batch <:+: frames := by
  obtain ⟨ran, hbuffer, hframes⟩ := h
  rw [hbuffer, ← hframes, appended_append]
  refine ⟨(sized_runBlocks ran).sent, fun batch hbatch ↦ ?_⟩
  exact ((infix_appended ran).1 batch hbatch).trans (List.prefix_append _ _).isInfix

theorem Queued.length_batches {phone : ClipModel Octets} {frames : List Octets}
    (h : Queued phone frames) : ∀ batch ∈ phone.batches, batch.length = 10 := by
  refine List.forall_mem_map.mpr fun batch hbatch ↦ ?_
  rw [jpegs, List.length_map, h.batch.1 batch hbatch]

/-- What an action captures. -/
def capturedBy : ClipAction Octets → List Octets
  | .enqueue jpegData => [jpegData]
  | _ => []

/-- An action of the phone appends what it captures, and takes no batch back. -/
theorem Queued.step {phone phone' : ClipModel Octets} {frames : List Octets}
    (h : Queued phone frames) {a : ClipAction Octets} (hstep : stepClip phone a = some phone') :
    Queued phone' (frames ++ capturedBy a) ∧ phone.buffer.sent <+: phone'.buffer.sent := by
  have hsame (hbuffer : phone'.buffer = phone.buffer) (hqueue : phone'.bufferQueue =
      phone.bufferQueue) (hnone : capturedBy a = []) :
      Queued phone' (frames ++ capturedBy a) ∧ phone.buffer.sent <+: phone'.buffer.sent := by
    rw [hnone, List.append_nil, Queued, hbuffer, hqueue]
    exact ⟨h, List.prefix_rfl⟩
  obtain ⟨ran, hran, hframes⟩ := h
  cases a with
  | toggle =>
      simp only [stepClip] at hstep
      split at hstep
      · cases hstep
        exact hsame rfl rfl rfl
      · cases hstep
        exact hsame rfl rfl rfl
      · cases hstep
  | clearFrameBuffer =>
      simp only [stepClip] at hstep
      split at hstep
      · cases hstep
        refine ⟨⟨ran, hran, ?_⟩, List.prefix_rfl⟩
        rw [← List.append_assoc, appended_append, hframes]
        rfl
      · cases hstep
  | check =>
      simp only [stepClip] at hstep
      split at hstep
      · split at hstep
        · cases hstep
          exact hsame rfl rfl rfl
        · cases hstep
          exact hsame rfl rfl rfl
      · cases hstep
  | enqueue jpegData =>
      simp only [stepClip] at hstep
      split at hstep
      · cases hstep
        refine ⟨⟨ran, hran, ?_⟩, List.prefix_rfl⟩
        rw [← List.append_assoc, appended_append, hframes]
        rfl
      · cases hstep
  | discard =>
      simp only [stepClip] at hstep
      split at hstep
      · cases hstep
        exact hsame rfl rfl rfl
      · cases hstep
  | runBlock =>
      simp only [stepClip] at hstep
      split at hstep
      · next block blocks hqueue =>
          cases hstep
          refine ⟨⟨ran ++ [block], ?_, ?_⟩, sent_prefix_runBlock _ block⟩
          · rw [runBlocks_append, ← hran]
            rfl
          · rw [← hframes, hqueue, List.append_assoc]
            exact (List.append_nil _).symm
      · cases hstep

theorem capturedFrames_concat (actions : List LiveAction) (a : ClipAction Octets) :
    capturedFrames (actions ++ [.phone a]) = capturedFrames actions ++ capturedBy a := by
  rw [capturedFrames, List.filterMap_append]
  cases a <;> rfl

theorem capturedFrames_concat_server (actions : List LiveAction) (a : HandlerAction) :
    capturedFrames (actions ++ [.server a]) = capturedFrames actions := by
  rw [capturedFrames, List.filterMap_append]
  exact List.append_nil _

/-- What one action preserves. -/
theorem LiveSafe.step {actions : List LiveAction} {s s' : LiveClip Image} {a : LiveAction}
    (h : LiveSafe cwd uuid actions s) (horderly : InOrder uuid s a)
    (hstep : stepLive q uuid cwd s a = some s') : LiveSafe cwd uuid (actions ++ [a]) s' := by
  obtain ⟨hten, hruns⟩ := h.queued.batch
  cases a with
  | phone a =>
      obtain ⟨hintime, hclean⟩ := horderly
      obtain ⟨phone', hphone, rfl⟩ := Option.map_eq_some_iff.mp hstep
      obtain ⟨hqueued, hsent⟩ := h.queued.step hphone
      rw [← capturedFrames_concat] at hqueued
      refine ⟨h.separated.step hintime hphone, hqueued, ?_, h.handlers.mono (hsent.map jpegs)⟩
      rw [capturedFrames_concat]
      refine List.forall_mem_append.mpr ⟨h.clean, fun frame hframe ↦ ?_⟩
      cases a with
      | enqueue jpegData =>
          rw [List.mem_singleton.mp hframe]
          exact hclean jpegData rfl
      | _ => cases hframe
  | server a =>
      obtain ⟨server', hserver, rfl⟩ := Option.map_eq_some_iff.mp hstep
      have hframes : ∀ batch ∈ s.phone.buffer.sent, ∀ frame ∈ jpegs batch, Clean uuid frame :=
        fun batch hbatch frame hframe ↦ h.clean frame ((hruns batch hbatch).subset hframe)
      have hrequests : request q uuid s.phone = fun r ↦ s.phone.batches[r]?.map sendFrames :=
        funext fun r ↦ request_eq hten hframes r
      rw [hrequests, ← stepHandler_eq] at hserver
      exact ⟨h.separated, (capturedFrames_concat_server actions a).symm ▸ h.queued,
        (capturedFrames_concat_server actions a).symm ▸ h.clean,
        h.handlers.step h.queued.length_batches horderly hserver⟩

/-! ## All runs -/

/-- **From the camera to the disk.**  In every orderly run, once every batch that was sent has
been handled, the ten files on disk are ten frames that were captured one after the other in
one session. -/
theorem live_clip_end_to_end {disk : ServerDisk Image} {actions : List LiveAction}
    {s : LiveClip Image}
    (hall : AllSteps (stepLive q uuid cwd) (InOrder uuid) (.start disk) actions)
    (hexec : exec (stepLive q uuid cwd) (.start disk) actions = some s)
    (hsent : s.phone.batches ≠ []) (hreturned : AllReturned s.phone.batches s.server) :
    ∃ batch ∈ s.phone.buffer.sent, OneSession batch ∧
      jpegs batch <:+: capturedFrames actions ∧
      ∀ k < 10, ∃ frame, batch[k]? = some frame ∧
        s.server.disk.read (liveFramePath cwd (liveFrameName k)) =
          some (.bytes frame.jpegData) := by
  have hinit : LiveSafe cwd uuid [] (.start disk : LiveClip Image) :=
    ⟨⟨fun batch hbatch ↦ (nomatch hbatch), fun frame hframe ↦ (nomatch hframe)⟩,
      ⟨[], rfl, rfl⟩, fun frame hframe ↦ (nomatch hframe),
      .inr ⟨fun _ _ _ h ↦ (nomatch h), fun _ _ _ _ _ h ↦ (nomatch h), .inl fun _ ↦ rfl⟩⟩
  have hsafe := exec_invariant hinit (fun _ _ _ _ h ↦ h.step) hall hexec
  obtain ⟨-, hinfix⟩ := hsafe.queued.batch
  obtain ⟨frames, hframes, hfiles⟩ :=
    hsafe.handlers.oneClip hsafe.queued.length_batches hsent hreturned
  obtain ⟨batch, hbatch, rfl⟩ := List.mem_map.mp hframes
  refine ⟨batch, hbatch, hsafe.separated.sent batch hbatch, hinfix batch hbatch, fun k hk ↦ ?_⟩
  obtain ⟨jpegData, hjpeg, hread⟩ := hfiles k hk
  rw [jpegs, List.getElem?_map] at hjpeg
  obtain ⟨frame, hframe, rfl⟩ := Option.map_eq_some_iff.mp hjpeg
  exact ⟨frame, hframe, hread⟩

/-! ## A sample run -/

/-- All requests have the same boundary. -/
def sampleUuid : ℕ → UUID := fun _ ↦ UUID.sample

/-- Ten frames of one byte are captured and sent, and a handler writes them while sending is
switched off. -/
def sampleLive : List LiveAction :=
  .phone .toggle ::
    ((List.range 10).flatMap fun k ↦
      [.phone .check, .phone (.enqueue [k.toUInt8]), .phone .runBlock]) ++
    [.server (.start 0), .phone .toggle] ++ List.replicate 10 (.server (.resume 0)) ++
    [.phone .clearFrameBuffer, .phone .runBlock]

instance (jpegData : Octets) : Decidable (Clean sampleUuid jpegData) :=
  decidable_of_iff (¬ octets UUID.sample.boundary <:+: jpegData) ⟨fun h _ ↦ h, fun h ↦ h 0⟩

instance (batches : List (List Octets)) (s : ClipHandlers Unit) (index : ℕ) :
    Decidable (Unopened batches s index) :=
  inferInstanceAs (Decidable (∀ r < batches.length, (s.phase r).index? ≠ some index))

instance (batches : List (List Octets)) (s : ClipHandlers Unit) :
    ∀ a, Decidable (Apart batches s a)
  | .start _ => inferInstanceAs (Decidable (Unopened batches s 0))
  | .resume r => inferInstanceAs
      (Decidable (∀ index ∈ (s.phase r).index?, Unopened batches s (index + 1)))
  | .raise _ => isTrue trivial

instance (s : LiveClip Unit) : ∀ a, Decidable (InOrder sampleUuid s a)
  | .phone (.enqueue jpegData) =>
      decidable_of_iff (InTime s.phone (.enqueue jpegData) ∧ Clean sampleUuid jpegData)
        ⟨fun h ↦ ⟨h.1, fun _ heq ↦ ClipAction.enqueue.inj heq ▸ h.2⟩, fun h ↦ ⟨h.1, h.2 _ rfl⟩⟩
  | .phone .toggle | .phone .clearFrameBuffer | .phone .check | .phone .discard
  | .phone .runBlock => isTrue ⟨trivial, fun _ heq ↦ nomatch heq⟩
  | .server a => inferInstanceAs (Decidable (Apart s.phone.batches s.server a))

theorem live_clip_end_to_end_sample :
    ∃ s, exec (stepLive .lenient sampleUuid [])
        (.start (Disk.empty (.bytes []) : ServerDisk Unit)) sampleLive = some s ∧
      ∃ batch ∈ s.phone.buffer.sent, OneSession batch ∧
        jpegs batch <:+: capturedFrames sampleLive ∧ ∀ k < 10, ∃ frame, batch[k]? = some frame ∧
          s.server.disk.read (liveFramePath [] (liveFrameName k)) =
            some (.bytes frame.jpegData) := by
  have hrun : (exec (stepLive .lenient sampleUuid [])
      (.start (Disk.empty (.bytes []) : ServerDisk Unit)) sampleLive).map
        (fun s ↦ (s.phone.batches.length, (s.server.phase 0).isReturned)) = some (1, true) := by
    decide +kernel
  have hall : AllSteps (stepLive .lenient sampleUuid []) (InOrder sampleUuid)
      (.start (Disk.empty (.bytes []) : ServerDisk Unit)) sampleLive := by decide +kernel
  obtain ⟨s, hs, hobserved⟩ := Option.map_eq_some_iff.mp hrun
  obtain ⟨hlength, hreturned⟩ := Prod.mk.inj hobserved
  refine ⟨s, hs, live_clip_end_to_end hall hs (fun hnil ↦ ?_) fun r hr ↦ ?_⟩
  · rw [hnil] at hlength
    cases hlength
  · obtain rfl : r = 0 := by omega
    exact hreturned

end Courtside
