import Courtside.Commentary.Playback
import Courtside.Data.Disk
import Courtside.Data.FirstError
import Mathlib.Data.List.DropRight

/-!
# Preparing the commentary

`generate_and_prepare_commentary` asks one service for a text about each event and another for
its audio, and saves the audio under a name that has the number of the event in it.  An
exception anywhere ends the loop: the segments are lost, but the files of the events before
stay.

What can be said for an event does not depend on the files, nor on the other events.  So the
loop is one that stops at the first error (`prepareLoop_eq`), and what it leaves is given event
by event (`commentary_prepared`).
-/

namespace Courtside

/-! ## Texts -/

/-- The characters of which `str.isspace` is true. -/
def isPythonSpace (c : Char) : Bool :=
  (0x09 ≤ c.toNat && c.toNat ≤ 0x0d) || (0x1c ≤ c.toNat && c.toNat ≤ 0x20) ||
    (0x2000 ≤ c.toNat && c.toNat ≤ 0x200a) ||
    [0x85, 0xa0, 0x1680, 0x2028, 0x2029, 0x202f, 0x205f, 0x3000].contains c.toNat

/-- `text.strip()` -/
def strip (text : String) : String :=
  String.ofList ((text.toList.dropWhile isPythonSpace).rdropWhile isPythonSpace)

/-! ## The services -/

/-- The services, as they answer for one event; an error is an exception of a client. -/
structure Services where
  /-- `client.models.generate_content(…).text` -/
  generateContent : String → Except String (Option String)
  /-- The chunks of `client1.text_to_speech.convert(…)`. -/
  convert : String → Except String (List (List UInt8))

/-- The exceptions of the preparation. -/
inductive CommentaryError where
  | missingKey (e : KeyError)
  | service (message : String)
  | emptyResponse (message : String)
  | noAudio (message : String)
deriving DecidableEq

/-- `generate_commentary_for_event` -/
def generateCommentaryForEvent (services : Services) (event : EventDict) :
    Except CommentaryError String := do
  let prompt ← (generateCommentaryPrompt event).mapError .missingKey
  let text ← (services.generateContent prompt).mapError .service
  let commentary :=
    match text with
    | some text => strip text
    | none => ""
  if commentary ≠ "" then
    return commentary
  else
    throw (.emptyResponse ("Gemini API returned an empty response for event at " ++
      formatTwoDecimals event.time ++ "s"))

/-- The audio for a text. -/
def audioContent (services : Services) (text : String) : Except CommentaryError (List UInt8) := do
  let audioGenerator ← (services.convert text).mapError .service
  let audio := audioGenerator.flatten
  if audio ≠ [] then
    return audio
  else
    throw (.noAudio "ElevenLabs API error: No audio content returned.")

/-- The files in the working directory. -/
abbrev AudioDisk := Disk String (List UInt8)

/-- `text_to_speech_elevenlabs` -/
def textToSpeechElevenlabs (services : Services) (text outputFilename : String)
    (disk : AudioDisk) : Except CommentaryError Unit × AudioDisk :=
  match audioContent services text with
  | .error e => (.error e, disk)
  | .ok audio => (.ok (), disk.save outputFilename audio)

/-- `f"commentary_{i}.mp3"` -/
def audioFilename (i : ℕ) : String := "commentary_" ++ toString i ++ ".mp3"

/-! ## The loop -/

/-- The loop of `generate_and_prepare_commentary`, from event `i` on. -/
def prepareLoop (services : ℕ → Services) :
    ℕ → List EventDict → List Segment → AudioDisk →
      Except CommentaryError (List Segment) × AudioDisk
  | _, [], segments, disk => (.ok segments, disk)
  | i, event :: events, segments, disk =>
      match generateCommentaryForEvent (services i) event with
      | .error e => (.error e, disk)
      | .ok commentary =>
          match textToSpeechElevenlabs (services i) commentary (audioFilename i) disk with
          | (.error e, disk) => (.error e, disk)
          | (.ok (), disk) =>
              prepareLoop services (i + 1) events
                (segments ++ [{ time := event.time, commentary, audioFile := audioFilename i }])
                disk

/-- `generate_and_prepare_commentary` -/
def generateAndPrepareCommentary (services : ℕ → Services) (events : List EventDict)
    (disk : AudioDisk) : Except CommentaryError (List Segment) × AudioDisk :=
  prepareLoop services 0 events [] disk

/-! ## One event -/

/-- What is said about an event. -/
structure Voiced where
  segment : Segment
  audio : List UInt8
deriving DecidableEq

/-- What is said about event `i`, or why nothing can be. -/
def voice (services : ℕ → Services) (i : ℕ) (event : EventDict) :
    Except CommentaryError Voiced := do
  let commentary ← generateCommentaryForEvent (services i) event
  let audio ← audioContent (services i) commentary
  return { segment := { time := event.time, commentary, audioFile := audioFilename i }, audio }

theorem audioFilename_injective : Function.Injective audioFilename := by
  intro i j h
  have hlist := congrArg String.toList h
  simp only [audioFilename, String.toList_append, Nat.toString_eq_repr, Nat.toList_repr] at hlist
  have hdigits := List.append_cancel_left (List.append_cancel_right hlist)
  calc
    i = Nat.ofDigitChars 10 (Nat.toDigits 10 i) 0 := Nat.ofDigitChars_ten_toDigits.symm
    _ = Nat.ofDigitChars 10 (Nat.toDigits 10 j) 0 := by rw [hdigits]
    _ = j := Nat.ofDigitChars_ten_toDigits

variable {services : ℕ → Services}

/-- **Refinement.**  The loop stops at the first event about which nothing can be said, and has
saved the audio of those before. -/
theorem prepareLoop_eq (i : ℕ) (events : List EventDict) (segments : List Segment)
    (disk : AudioDisk) :
    prepareLoop services i events segments disk =
      ((match firstError (voice services) i events with
        | some e => .error e
        | none => .ok (segments ++ (beforeError (voice services) i events).map Voiced.segment)),
      disk.saveAll ((beforeError (voice services) i events).map fun voiced ↦
        (voiced.segment.audioFile, voiced.audio))) := by
  induction events generalizing i segments disk with
  | nil => simp [prepareLoop, beforeError, firstError]
  | cons event events ih =>
      rw [prepareLoop, beforeError, firstError, voice]
      cases hcommentary : generateCommentaryForEvent (services i) event with
      | error e => rfl
      | ok commentary =>
          dsimp only [textToSpeechElevenlabs]
          cases haudio : audioContent (services i) commentary with
          | error e =>
              simp only [Except.bind, bind, haudio]
              rfl
          | ok audio =>
              simp only [ih, Except.bind, bind, haudio, pure, Except.pure, List.map_cons,
                List.append_assoc, List.singleton_append, Disk.saveAll_cons]

/-- The file of an event is named by its number. -/
theorem audioFile_of_voice {i : ℕ} {event : EventDict} {voiced : Voiced}
    (h : voice services i event = .ok voiced) :
    voiced.segment.audioFile = audioFilename i ∧ voiced.segment.time = event.time := by
  rw [voice] at h
  cases hcommentary : generateCommentaryForEvent (services i) event with
  | error e => rw [hcommentary] at h; cases h
  | ok commentary =>
      rw [hcommentary] at h
      cases haudio : audioContent (services i) commentary with
      | error e => simp [haudio, bind, Except.bind] at h
      | ok audio =>
          simp only [haudio, bind, Except.bind, pure, Except.pure, Except.ok.injEq] at h
          rw [← h]
          exact ⟨rfl, rfl⟩

/-! ## All events -/

/-- The segments and files of the first `n` events. -/
structure Prepared (services : ℕ → Services) (events : List EventDict) (n : ℕ)
    (segments : List Segment) (disk disk' : AudioDisk) : Prop where
  length : segments.length = n
  /-- The events before `n` have been voiced. -/
  voiced : ∀ k < n, ∃ event voiced, events[k]? = some event ∧
    voice services k event = .ok voiced ∧ segments[k]? = some voiced.segment ∧
      disk'.read (audioFilename k) = some voiced.audio
  /-- No other file has changed. -/
  others : ∀ name, (∀ k < n, name ≠ audioFilename k) → disk'.file? name = disk.file? name

/-- What has been voiced before the first error, and the files. -/
theorem prepared_beforeError (events : List EventDict) (disk : AudioDisk) :
    Prepared services events (beforeError (voice services) 0 events).length
      ((beforeError (voice services) 0 events).map Voiced.segment) disk
      (disk.saveAll ((beforeError (voice services) 0 events).map fun voiced ↦
        (voiced.segment.audioFile, voiced.audio))) := by
  have hvoiced {k : ℕ} {voiced : Voiced}
      (hk : (beforeError (voice services) 0 events)[k]? = some voiced) :
      ∃ event, events[k]? = some event ∧ voice services k event = .ok voiced ∧
        voiced.segment.audioFile = audioFilename k := by
    obtain ⟨event, hevent, hok⟩ := getElem?_beforeError hk
    rw [Nat.zero_add] at hok
    exact ⟨event, hevent, hok, (audioFile_of_voice hok).1⟩
  refine ⟨List.length_map _, fun k hk ↦ ?_, fun name hname ↦ ?_⟩
  · obtain ⟨voiced, hget⟩ : ∃ voiced, (beforeError (voice services) 0 events)[k]? = some voiced :=
      ⟨_, List.getElem?_eq_getElem hk⟩
    obtain ⟨event, hevent, hok, hfile⟩ := hvoiced hget
    refine ⟨event, voiced, hevent, hok, by rw [List.getElem?_map, hget]; rfl, ?_⟩
    refine Disk.read_saveAll_of_mem ?_ (fun audio hmem ↦ ?_) disk
    · exact List.mem_map.mpr ⟨voiced, List.mem_of_getElem? hget, by rw [hfile]⟩
    · -- a file that is written again would be that of the same event
      obtain ⟨voiced', hmem', heq⟩ := List.mem_map.mp hmem
      obtain ⟨j, hget'⟩ := List.mem_iff_getElem?.mp hmem'
      obtain ⟨event', -, -, hfile'⟩ := hvoiced hget'
      obtain ⟨hname, rfl⟩ := Prod.mk.inj heq
      obtain rfl : j = k := audioFilename_injective (hfile'.symm.trans hname)
      rw [Option.some.inj (hget'.symm.trans hget)]
  · refine Disk.file?_saveAll_of_forall_ne (fun write hwrite ↦ ?_) disk
    obtain ⟨voiced, hmem, rfl⟩ := List.mem_map.mp hwrite
    obtain ⟨k, hget⟩ := List.mem_iff_getElem?.mp hmem
    obtain ⟨event, -, -, hfile⟩ := hvoiced hget
    have hlt : k < (beforeError (voice services) 0 events).length :=
      (List.getElem?_eq_some_iff.mp hget).1
    rw [hfile]
    exact hname k hlt

/-- The segments that are returned are those of all events. -/
theorem prepared_of_ok {events : List EventDict} {disk : AudioDisk} {segments : List Segment}
    (h : (generateAndPrepareCommentary services events disk).1 = .ok segments) :
    Prepared services events events.length segments disk
      (generateAndPrepareCommentary services events disk).2 := by
  rw [generateAndPrepareCommentary, prepareLoop_eq] at h ⊢
  rcases firstError_cases (voice services) 0 events with
    ⟨hnone, hlength⟩ | ⟨event, e, -, -, hsome⟩
  · rw [hnone, List.nil_append] at h
    rw [← Except.ok.inj h, ← hlength]
    exact prepared_beforeError events disk
  · rw [hsome] at h
    cases h

/-- The error that is raised is that of some event. -/
theorem voice_of_error {events : List EventDict} {disk : AudioDisk} {e : CommentaryError}
    (h : (generateAndPrepareCommentary services events disk).1 = .error e) :
    ∃ n event, events[n]? = some event ∧ voice services n event = .error e := by
  rw [generateAndPrepareCommentary, prepareLoop_eq] at h
  rcases firstError_cases (voice services) 0 events with
    ⟨hnone, -⟩ | ⟨event, e', hevent, herror, hsome⟩
  · rw [hnone] at h
    cases h
  · rw [hsome] at h
    rw [Nat.zero_add] at herror
    exact ⟨_, event, hevent, Except.error.inj h ▸ herror⟩

/-- **Preparation.**  Some number of events have been voiced, each has its audio in its own
file, and no other file has changed.  Either these are all events, and the segments are
returned, or nothing can be said about the next one, and its error is raised. -/
theorem commentary_prepared (services : ℕ → Services) (events : List EventDict)
    (disk : AudioDisk) :
    ∃ n segments, Prepared services events n segments disk
        (generateAndPrepareCommentary services events disk).2 ∧
      ((n = events.length ∧
          (generateAndPrepareCommentary services events disk).1 = .ok segments) ∨
        ∃ event e, events[n]? = some event ∧ voice services n event = .error e ∧
          (generateAndPrepareCommentary services events disk).1 = .error e) := by
  rw [generateAndPrepareCommentary, prepareLoop_eq]
  refine ⟨_, _, prepared_beforeError events disk, ?_⟩
  rcases firstError_cases (voice services) 0 events with
    ⟨hnone, hlength⟩ | ⟨event, e, hevent, herror, hsome⟩
  · refine .inl ⟨hlength, ?_⟩
    rw [hnone, List.nil_append]
  · refine .inr ⟨event, e, hevent, ?_, ?_⟩
    · rwa [Nat.zero_add] at herror
    · rw [hsome]

end Courtside
