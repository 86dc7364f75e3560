import Courtside.Commentary.Preparation
import Courtside.Commentary.ResultsFile

/-!
# From the video to what is heard

The analysis of a video leaves a file, the events in it are the input of the commentary, and
the segments of the commentary are what is played.  Here the three meet.

The events of the file are those of the video (`readResults`), each is the event of a play and
so has the keys that its prompt needs (`prompt_of_mem_eventsOf`), and the audio of an event is
still in its file when its turn to be played comes.
-/

universe u

namespace Courtside

variable {F : Type} (floats : FloatNumbers F) {Image : Type u} (detector : Detector Image)

/-! ## The events of a call -/

/-- At a frame rate of zero there are no events. -/
theorem returnedEvents_zero (frames : List FrameDict) (w : ℕ) (playerStats : PlayerStatsDict) :
    returnedEvents (processFramesWithSlidingWindow frames w 0 playerStats).1 = [] := by
  rw [processFramesWithSlidingWindow]
  split
  · rfl
  dsimp only
  cases aggregateWindowState ((frames.take w).map getFrameState) with
  | error e => rfl
  | ok prevAggState =>
      obtain ⟨outcome, hnil, houtcome⟩ := windowLoop_zero (frames.drop w) w
        ((frames.take w).map getFrameState) prevAggState
      dsimp only
      rw [houtcome]
      exact hnil

/-- Every event of a call is that of a play. -/
theorem exists_play_of_mem_eventsOf {call : Call Image} {event : GameEvent}
    (h : event ∈ eventsOf detector call) : ∃ play time, event = Play.toGameEvent time play := by
  rw [eventsOf] at h
  by_cases hw : 1 ≤ call.windowSize
  · by_cases hr : call.frameRate = 0
    · rw [hr, returnedEvents_zero] at h
      cases h
    · rw [processFramesWithSlidingWindow_eq _ hw hr] at h
      obtain ⟨i, play, -, -, -, rfl⟩ := mem_playEvents.mp h
      exact ⟨play, _, rfl⟩
  · have hzero : call.windowSize = 0 := by omega
    rw [hzero] at h
    cases h

/-- Such an event has a prompt, also after it has been in a file. -/
theorem prompt_of_mem_eventsOf {call : Call Image} {event : GameEvent}
    (h : event ∈ eventsOf detector call) :
    ∃ prompt, generateCommentaryPrompt ((asdict event).recorded floats) = .ok prompt := by
  obtain ⟨play, time, rfl⟩ := exists_play_of_mem_eventsOf detector h
  have hrecorded : (asdict (play.toGameEvent time)).recorded floats =
      asdict (play.toGameEvent (floats.toRat (floats.ofRat time))) := by
    cases play <;> rfl
  obtain ⟨-, line, hline, -⟩ :=
    commentaryLine_asdict (floats.toRat (floats.ofRat time)) play
  rw [hrecorded, generateCommentaryPrompt, hline]
  exact ⟨_, rfl⟩

/-- If nothing can be said about an event that has a prompt, that is not for a missing key. -/
theorem ne_missingKey_of_voice {services : ℕ → Services} {i : ℕ} {event : EventDict}
    {prompt : String} (h : generateCommentaryPrompt event = .ok prompt) (e : KeyError) :
    voice services i event ≠ .error (.missingKey e) := by
  have haudio (text : String) : audioContent (services i) text ≠ .error (.missingKey e) := by
    rw [audioContent]
    cases (services i).convert text with
    | error message => exact fun herror ↦ (nomatch herror)
    | ok chunks =>
        simp only [Except.mapError, bind, Except.bind]
        split <;> exact fun herror ↦ (nomatch herror)
  have hcommentary : generateCommentaryForEvent (services i) event ≠ .error (.missingKey e) := by
    rw [generateCommentaryForEvent, h]
    simp only [Except.mapError, bind, Except.bind]
    cases (services i).generateContent prompt with
    | error message => exact fun herror ↦ (nomatch herror)
    | ok text =>
        cases text with
        | none => exact fun herror ↦ (nomatch herror)
        | some text =>
            dsimp only
            split <;> exact fun herror ↦ (nomatch herror)
  intro herror
  rw [voice] at herror
  cases hspoken : generateCommentaryForEvent (services i) event with
  | error e' =>
      rw [hspoken] at herror
      obtain rfl : e' = .missingKey e := Except.error.inj herror
      exact hcommentary hspoken
  | ok commentary =>
      cases hheard : audioContent (services i) commentary with
      | error e' =>
          simp only [hspoken, hheard, bind, Except.bind] at herror
          obtain rfl : e' = .missingKey e := Except.error.inj herror
          exact haudio commentary hheard
      | ok audio => simp [hspoken, hheard, bind, Except.bind, pure, Except.pure] at herror

/-! ## What is heard -/

/-- The results in the file of a call that has succeeded. -/
theorem results_of_ok {text : TextProcess} {process : Process}
    (hrefines : Refines floats text process) {call : Call Image} {chars : ℕ}
    (h : (processVideoAndWriteText floats detector call chars text).1 = .ok ()) :
    ∃ chars' results,
      (processVideoAndWriteText floats detector call chars text).2.files.get? call.outputJsonPath =
        some chars' ∧ readResults floats chars' = some results ∧
      results.gameEvents =
        (eventsOf detector call).map fun event ↦ (asdict event).recorded floats := by
  obtain ⟨houtcome, hrefines'⟩ :=
    refines_processVideoAndWriteText floats detector hrefines call chars
  have hfile := hrefines'.files call.outputJsonPath
  rw [files_of_ok detector (houtcome.symm.trans h), Option.map_some, Option.map_some] at hfile
  obtain ⟨chars', hchars', hread⟩ := Option.map_eq_some_iff.mp hfile
  exact ⟨chars', _, hchars', hread, rfl⟩

/-- What is played when the commentary on events is prepared, and then played. -/
theorem played_of_prepared {services : ℕ → Services} {events : List EventDict}
    {segments : List Segment} {disk : AudioDisk}
    (h : (generateAndPrepareCommentary services events disk).1 = .ok segments)
    (videoStartTime : ℚ) (playbackOf : ℕ → Playback) (clock : ℚ) :
    (playedAt (scheduleCommentaryPlayback videoStartTime playbackOf segments clock)).length =
        events.length ∧
      ∀ k event, events[k]? = some event → ∃ voiced start,
        voice services k event = .ok voiced ∧
        (playedAt (scheduleCommentaryPlayback videoStartTime playbackOf segments clock))[k]? =
          some (start, audioFilename k) ∧
        (generateAndPrepareCommentary services events disk).2.read (audioFilename k) =
          some voiced.audio ∧
        videoStartTime + event.time ≤ start := by
  have hprepared := prepared_of_ok h
  refine ⟨?_, fun k event hevent ↦ ?_⟩
  · rw [playedAt_eq, List.length_map, List.length_zipIdx, hprepared.length]
  · obtain ⟨event', voiced, hevent', hvoiced, hsegment, hread⟩ :=
      hprepared.voiced k (List.getElem?_eq_some_iff.mp hevent).1
    obtain rfl : event = event' := Option.some.inj (hevent.symm.trans hevent')
    obtain ⟨hfile, htime⟩ := audioFile_of_voice hvoiced
    have hplayed : (playedAt (scheduleCommentaryPlayback videoStartTime playbackOf segments
        clock))[k]? =
        some (startAt clock (fun k ↦ videoStartTime + timeOf segments k)
          (fun k ↦ (playbackOf k).busy) k, audioFilename k) := by
      rw [playedAt_eq, List.getElem?_map, List.getElem?_zipIdx, hsegment, Option.map_some,
        Option.map_some, Nat.zero_add, hfile]
    have hstart := time_le_start hplayed
    rw [timeOf, hsegment, Option.map_some, Option.getD_some, htime] at hstart
    exact ⟨voiced, _, hvoiced, hplayed, hread, hstart⟩

/-- The commentary on the events in a file is one on the video of a call.  No key is missing
when it is prepared, and if the services answer, one segment is played for each event of the
video, in order: the audio of what was said about that event, and not before its time. -/
def Broadcasts (call : Call Image) (results : Results) : Prop :=
  ∀ (services : ℕ → Services) (disk : AudioDisk),
    (∀ e, (generateAndPrepareCommentary services results.gameEvents disk).1 ≠
      .error (.missingKey e)) ∧
    ∀ segments, (generateAndPrepareCommentary services results.gameEvents disk).1 = .ok segments →
      ∀ (videoStartTime : ℚ) (playbackOf : ℕ → Playback) (clock : ℚ),
        (playedAt (scheduleCommentaryPlayback videoStartTime playbackOf segments clock)).length =
          (eventsOf detector call).length ∧
        ∀ k event, (eventsOf detector call)[k]? = some event → ∃ voiced start,
          voice services k ((asdict event).recorded floats) = .ok voiced ∧
          (playedAt (scheduleCommentaryPlayback videoStartTime playbackOf segments clock))[k]? =
            some (start, audioFilename k) ∧
          (generateAndPrepareCommentary services results.gameEvents disk).2.read
            (audioFilename k) = some voiced.audio ∧
          videoStartTime + ((asdict event).recorded floats).time ≤ start

/-- **The broadcast.**  The file of a call that has succeeded can be read back, whatever was
processed before, and the commentary on its events is one on the video. -/
theorem broadcast (history : List (Call Image × ℕ)) (call : Call Image) (chars : ℕ)
    (h : (processVideoAndWriteText floats detector call chars
      (runTextCalls floats detector history ⟨Dict.empty, Dict.empty⟩)).1 = .ok ()) :
    ∃ text results,
      (runTextCalls floats detector (history ++ [(call, chars)])
        ⟨Dict.empty, Dict.empty⟩).files.get? call.outputJsonPath = some text ∧
      readResults floats text = some results ∧ Broadcasts floats detector call results := by
  have hrun : runTextCalls floats detector (history ++ [(call, chars)]) ⟨Dict.empty, Dict.empty⟩ =
      (processVideoAndWriteText floats detector call chars
        (runTextCalls floats detector history ⟨Dict.empty, Dict.empty⟩)).2 :=
    List.foldl_concat _ _ _ _
  have hstart : Refines floats ⟨Dict.empty, Dict.empty⟩ ⟨Dict.empty, Dict.empty⟩ :=
    ⟨rfl, fun _ ↦ rfl⟩
  obtain ⟨text, results, hfile, hread, hevents⟩ :=
    results_of_ok floats detector (refines_runTextCalls floats detector hstart history) h
  rw [hrun]
  refine ⟨text, results, hfile, hread, fun services disk ↦ ⟨fun e herror ↦ ?_, ?_⟩⟩
  · obtain ⟨n, event, hevent, hvoice⟩ := voice_of_error herror
    rw [hevents] at hevent
    obtain ⟨recorded, hmem, rfl⟩ := List.mem_map.mp (List.mem_of_getElem? hevent)
    obtain ⟨prompt, hprompt⟩ := prompt_of_mem_eventsOf floats detector hmem
    exact ne_missingKey_of_voice hprompt e hvoice
  · intro segments hsegments videoStartTime playbackOf clock
    obtain ⟨hlength, hplayed⟩ := played_of_prepared hsegments videoStartTime playbackOf clock
    refine ⟨by rw [hlength, hevents, List.length_map], fun k event hevent ↦ ?_⟩
    exact hplayed k _ (by rw [hevents, List.getElem?_map, hevent]; rfl)

/-- Player `7` loses the ball in the second frame, which is one second later. -/
def slowCall : Call FrameState := { sampleCall with frameRate := 1 }

theorem broadcast_sample :
    ∃ text results,
      (runTextCalls sampleFloats sampleDetector ([(slowCall, 0)] ++ [(slowCall, 0)])
        ⟨Dict.empty, Dict.empty⟩).files.get? slowCall.outputJsonPath = some text ∧
      readResults sampleFloats text = some results ∧
      Broadcasts sampleFloats sampleDetector slowCall results :=
  broadcast sampleFloats sampleDetector [(slowCall, 0)] slowCall 0 (by decide +kernel)

end Courtside
