import Courtside.Commentary.Prompt
import Courtside.Data.Serial
import Mathlib.Algebra.Order.Ring.Rat
import Mathlib.Tactic.Linarith
import Mathlib.Tactic.Ring

/-!
# Playing the commentary

`schedule_commentary_playback` plays the segments one after the other.  For each it waits
until the segment's time in the video, if that is still to come, plays it, and sleeps for
the length of its audio.

The delay is calculated when the segments before have been played, so nothing is
calculated ahead and lateness is not forgotten: the segments are the jobs of `Serial`, with
their times in the video as the times from which they may start (`playedAt_eq`).  That gives
the time of each in closed form (`scheduled_at`).
-/

namespace Courtside

/-- A segment of the commentary. -/
structure Segment where
  time : ℚ
  commentary : String
  audioFile : String
deriving DecidableEq

/-- What happens outside the scheduler when a segment is played: how long `play` takes to
return, and the length of the audio. -/
structure Playback where
  playTime : ℚ
  audioLength : ℚ
  playTime_nonneg : 0 ≤ playTime
  audioLength_nonneg : 0 ≤ audioLength

/-- How long a segment keeps the scheduler from the next one. -/
def Playback.busy (playback : Playback) : ℚ := playback.playTime + playback.audioLength

/-- What the scheduler does. -/
inductive PlaybackEffect where
  | sleep (seconds : ℚ)
  | play (audioFile : String)
  | print (line : String)
deriving DecidableEq

/-- What the scheduler has done, with the clock when it began to. -/
abbrev PlaybackTrace := List (ℚ × PlaybackEffect)

/-- One segment: what is done, and the clock after it. -/
def playSegment (videoStartTime : ℚ) (playback : Playback) (segment : Segment) (clock : ℚ) :
    PlaybackTrace × ℚ :=
  let delay := segment.time - (clock - videoStartTime)
  let waited : PlaybackTrace := if 0 < delay then [(clock, .sleep delay)] else []
  let start := if 0 < delay then clock + delay else clock
  let returned := start + playback.playTime
  let line := "Played commentary for event at " ++ formatTwoDecimals segment.time ++ "s"
  (waited ++ [(start, .play segment.audioFile), (returned, .print line),
      (returned, .sleep playback.audioLength)],
    returned + playback.audioLength)

/-- `schedule_commentary_playback`, from a clock on. -/
def scheduleCommentaryPlayback (videoStartTime : ℚ) (playbackOf : ℕ → Playback) :
    List Segment → ℚ → PlaybackTrace
  | [], _ => []
  | segment :: segments, clock =>
      let (trace, clock) := playSegment videoStartTime (playbackOf 0) segment clock
      trace ++ scheduleCommentaryPlayback videoStartTime (fun k ↦ playbackOf (k + 1)) segments clock

/-- When which audio is played. -/
def playedAt (trace : PlaybackTrace) : List (ℚ × String) :=
  trace.filterMap fun
    | (clock, .play audioFile) => some (clock, audioFile)
    | _ => none

/-- The time of a segment in the video. -/
def timeOf (segments : List Segment) (k : ℕ) : ℚ := ((segments[k]?).map Segment.time).getD 0

/-! ## One segment -/

section Segment

variable (videoStartTime : ℚ) (playback : Playback) (segment : Segment) (clock : ℚ)

/-- A segment starts at once, or at its time in the video. -/
theorem start_eq_max :
    (if 0 < segment.time - (clock - videoStartTime) then
        clock + (segment.time - (clock - videoStartTime)) else clock) =
      max clock (videoStartTime + segment.time) := by
  split
  · next hdelay =>
      have hle : clock ≤ videoStartTime + segment.time := by linarith
      rw [max_eq_right hle]
      ring
  · next hdelay =>
      have hle : videoStartTime + segment.time ≤ clock := by linarith
      rw [max_eq_left hle]

theorem playedAt_playSegment :
    playedAt (playSegment videoStartTime playback segment clock).1 =
      [(max clock (videoStartTime + segment.time), segment.audioFile)] := by
  rw [← start_eq_max]
  unfold playSegment
  dsimp only
  split <;> rfl

theorem clock_playSegment :
    (playSegment videoStartTime playback segment clock).2 =
      max clock (videoStartTime + segment.time) + playback.busy := by
  rw [← start_eq_max, Playback.busy, ← add_assoc]
  rfl

end Segment

/-! ## All segments -/

theorem playedAt_append (trace trace' : PlaybackTrace) :
    playedAt (trace ++ trace') = playedAt trace ++ playedAt trace' := List.filterMap_append

/-- **Refinement.**  The segments are jobs that are done one after the other. -/
theorem playedAt_eq (videoStartTime : ℚ) (playbackOf : ℕ → Playback) (segments : List Segment)
    (clock : ℚ) :
    playedAt (scheduleCommentaryPlayback videoStartTime playbackOf segments clock) =
      segments.zipIdx.map fun entry ↦
        (startAt clock (fun k ↦ videoStartTime + timeOf segments k)
          (fun k ↦ (playbackOf k).busy) entry.2, entry.1.audioFile) := by
  induction segments generalizing clock playbackOf with
  | nil => rfl
  | cons segment segments ih =>
      rw [scheduleCommentaryPlayback]
      dsimp only
      rw [playedAt_append, playedAt_playSegment, clock_playSegment, ih, List.zipIdx_cons,
        List.map_cons, zero_add, List.zipIdx_succ, List.map_map]
      refine congrArg₂ List.cons rfl (List.map_congr_left fun entry _ ↦ Prod.ext ?_ rfl)
      exact congrArg (max · _)
        (freeAt_shift clock (fun k ↦ videoStartTime + timeOf (segment :: segments) k)
          (fun k ↦ (playbackOf k).busy) entry.2)

section Spacing

variable {videoStartTime clock start start' : ℚ} {playbackOf : ℕ → Playback}
  {segments : List Segment} {k : ℕ} {audioFile audioFile' : String}

theorem start_of_playedAt
    (h : (playedAt (scheduleCommentaryPlayback videoStartTime playbackOf segments clock))[k]? =
      some (start, audioFile)) :
    start = startAt clock (fun k ↦ videoStartTime + timeOf segments k)
      (fun k ↦ (playbackOf k).busy) k := by
  rw [playedAt_eq, List.getElem?_map, List.getElem?_zipIdx] at h
  obtain ⟨entry, hentry, heq⟩ := Option.map_eq_some_iff.mp h
  obtain ⟨segment, -, rfl⟩ := Option.map_eq_some_iff.mp hentry
  rw [← (Prod.mk.inj heq).1, Nat.zero_add]

/-- No segment is played before its time in the video. -/
theorem time_le_start
    (h : (playedAt (scheduleCommentaryPlayback videoStartTime playbackOf segments clock))[k]? =
      some (start, audioFile)) : videoStartTime + timeOf segments k ≤ start := by
  rw [start_of_playedAt h]
  exact release_le_startAt clock (fun k ↦ videoStartTime + timeOf segments k) _ k

/-- No segment is played before the one before it is over. -/
theorem start_add_busy_le
    (h : (playedAt (scheduleCommentaryPlayback videoStartTime playbackOf segments clock))[k]? =
      some (start, audioFile))
    (h' : (playedAt (scheduleCommentaryPlayback videoStartTime playbackOf segments clock))[k + 1]? =
      some (start', audioFile')) : start + (playbackOf k).busy ≤ start' := by
  rw [start_of_playedAt h, start_of_playedAt h']
  exact startAt_add_busy_le clock _ (fun k ↦ (playbackOf k).busy) k

end Spacing

/-- **Playback.**  Each segment starts when those before it have been played since the
beginning, or since one of them, or itself, that started at its time in the video, whichever
is latest. -/
theorem scheduled_at (videoStartTime : ℚ) (playbackOf : ℕ → Playback) (segments : List Segment)
    (clock : ℚ) :
    playedAt (scheduleCommentaryPlayback videoStartTime playbackOf segments clock) =
      segments.zipIdx.map fun entry ↦
        (max (clock + ∑ m ∈ Finset.range entry.2,
            ((playbackOf m).playTime + (playbackOf m).audioLength))
          ((Finset.range (entry.2 + 1)).sup' Finset.nonempty_range_add_one fun j ↦
            videoStartTime + timeOf segments j +
              ∑ m ∈ Finset.Ico j entry.2, ((playbackOf m).playTime + (playbackOf m).audioLength)),
          entry.1.audioFile) := by
  rw [playedAt_eq]
  refine List.map_congr_left fun entry _ ↦ Prod.ext ?_ rfl
  exact startAt_eq clock _ _ entry.2

/-- A segment that is late, and delays the next one. -/
example :
    (playedAt (scheduleCommentaryPlayback 100 (fun _ ↦ ⟨0, 3, le_rfl, by decide⟩)
      [⟨5, "", "a"⟩, ⟨2, "", "b"⟩, ⟨10, "", "c"⟩, ⟨20, "", "d"⟩] 101)).map Prod.fst =
        [105, 108, 111, 120] := by
  decide +kernel

end Courtside
