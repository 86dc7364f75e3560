import Courtside.Clip.LiveFrames
import Courtside.Training.Server

/-!
# Where uploads are written

Five handlers open a path for writing that ends with a name the client sends.  Each puts its
folder in front of the name, and none looks at the name, which may go up from the folder or,
where the two are joined by `os.path.join`, start over at the root.

So an upload stays in its folder exactly if its name does not lead out of it
(`uploads_stay_iff`): it goes up no further than it then comes down again by the names of the
directories it has left, and then goes on.
-/

universe u v

namespace Courtside

/-! ## Handlers -/

/-- A file that a client sends, by the handler that stores it. -/
inductive Upload where
  /-- A frame of `upload_clips`. -/
  | clips (filename : String)
  | game (filename : String)
  | video (request : UploadRequest)
  | test (filename : String)
  | predict (filename : String)

namespace Upload

variable (cwd backendDir : Path)

/-- The folder that is meant for the uploads of the handler. -/
def folder : Upload → Path
  | clips _ => cwd ++ ["live_frames"]
  | game _ => cwd ++ ["games"]
  | video _ => uploadDir backendDir
  | test _ => uploadDir backendDir
  | predict _ => cwd ++ ["uploads"]

/-- The path that the handler opens. -/
def path : Upload → Path
  | clips filename => Path.join cwd ("./live_frames/" ++ filename)
  | game filename => Path.join cwd ("./games/" ++ filename)
  | video request => Path.join (uploadDir backendDir) request.newFilename
  | test filename => Path.join (uploadDir backendDir) filename
  | predict filename => Path.join cwd ("uploads/" ++ filename)

/-- What the client contributes to the path. -/
def name : Upload → String
  | clips filename => filename
  | game filename => filename
  | video request => request.newFilename
  | test filename => filename
  | predict filename => filename

/-- The path starts over at the root: `os.path.join` of an absolute name. -/
def StartsOver : Upload → Prop
  | video request => request.newFilename.toList.head? = some '/'
  | test filename => filename.toList.head? = some '/'
  | _ => False

instance : DecidablePred StartsOver
  | video request => inferInstanceAs (Decidable (request.newFilename.toList.head? = some '/'))
  | test filename => inferInstanceAs (Decidable (filename.toList.head? = some '/'))
  | clips _ | game _ | predict _ => inferInstanceAs (Decidable False)

/-- The name does not lead out of the folder. -/
def Stays (upload : Upload) : Prop :=
  if upload.StartsOver then
    Path.Inside (upload.folder cwd backendDir)
      (Path.Walk.ofComponents (Path.components upload.name)).names
  else (Path.Walk.ofComponents (Path.components upload.name)).Stays (upload.folder cwd backendDir)

instance (upload : Upload) : Decidable (upload.Stays cwd backendDir) :=
  inferInstanceAs (Decidable (ite _ _ _))

variable {cwd backendDir}

/-! ## Paths -/

/-- The path of a clip is the one at which its handler has been modelled. -/
theorem path_clips (filename : String) :
    (clips filename).path cwd backendDir = liveFramePath cwd filename := by
  have hsplit : "./live_frames/" ++ filename =
      "." ++ "/" ++ ("live_frames" ++ "/" ++ filename) := by
    rw [← String.append_assoc, ← String.append_assoc]
    rfl
  rw [path, hsplit, Path.join_dot, Path.foldl_enter_append_cons (by decide), liveFramePath]

theorem path_game (filename : String) :
    (game filename).path cwd backendDir =
      (Path.components filename).foldl Path.enter (cwd ++ ["games"]) := by
  have hsplit : "./games/" ++ filename = "." ++ "/" ++ ("games" ++ "/" ++ filename) := by
    rw [← String.append_assoc, ← String.append_assoc]
    rfl
  rw [path, hsplit, Path.join_dot, Path.foldl_enter_append_cons (by decide)]

theorem path_predict (filename : String) :
    (predict filename).path cwd backendDir =
      (Path.components filename).foldl Path.enter (cwd ++ ["uploads"]) := by
  have hhead : ("uploads" ++ "/" ++ filename).toList.head? ≠ some '/' := by simp
  have hsplit : "uploads/" ++ filename = "uploads" ++ "/" ++ filename := rfl
  rw [path, hsplit, Path.join, if_neg hhead, Path.foldl_enter_append_cons (by decide)]

/-- An interpolated path enters the components of the name, and a joined one those of its own. -/
theorem path_eq (upload : Upload) :
    upload.path cwd backendDir =
      (Path.components upload.name).foldl Path.enter
        (if upload.StartsOver then [] else upload.folder cwd backendDir) := by
  cases upload with
  | clips filename => exact path_clips filename
  | game filename => exact path_game filename
  | predict filename => exact path_predict filename
  | video request => rfl
  | test filename => rfl

end Upload

/-! ## Staying inside -/

/-- **Uploads in their folders.**  The path that a handler opens lies strictly inside its
folder if and only if the name does not lead out of the folder. -/
theorem uploads_stay_iff (cwd backendDir : Path) (upload : Upload) :
    Path.Inside (upload.folder cwd backendDir) (upload.path cwd backendDir) ↔
      upload.Stays cwd backendDir := by
  rw [Upload.path_eq, Upload.Stays]
  split
  · rw [Path.Walk.foldl_enter_eq, Path.Walk.after, List.take_nil, List.nil_append]
  · exact Path.inside_foldl_enter_iff _ _

/-- Every handler can be led out of its folder. -/
theorem uploads_stay_fails :
    (Upload.clips "../main.py").path ["srv"] ["srv"] = ["srv", "main.py"] ∧
      (Upload.game "..").path ["srv"] ["srv"] = ["srv"] ∧
      (Upload.video ⟨"clip.mov", [], "../Sam", "A"⟩).path ["srv"] ["srv"] =
        ["srv", "Sam_A.mov"] ∧
      (Upload.test "/srv/best.pt").path ["srv"] ["srv"] = ["srv", "best.pt"] ∧
      (Upload.predict "../best.pt").path ["srv"] ["srv"] = ["srv", "best.pt"] ∧
      ¬ ∀ (cwd backendDir : Path) (upload : Upload),
        Path.Inside (upload.folder cwd backendDir) (upload.path cwd backendDir) := by
  refine ⟨by decide, by decide, by decide, by decide, by decide, fun h ↦ ?_⟩
  exact absurd (h ["srv"] ["srv"] (.predict "../best.pt")) (by decide)

end Courtside
