import DmgCore.Dump.Job
import DmgCore.Proofs.Dump.Pictures
import DmgCore.Proofs.Files.LawfulStore
import DmgCore.Proofs.MemoryImage

/-!
What a dump job does to a collection of files.

* `DumpJob.runOn`: the job on a collection of files, with its answer and the collection
  afterwards;
* `DumpJob.picture_of_too_large`, `DumpJob.picture_of_render`: no picture is made of a snapshot
  that is too large, and that of any other is a view of the memory that holds it;
* `DumpJob.runOn_of_unreadable`, `DumpJob.runOn_of_too_large`, `DumpJob.runOn_of_render`: what
  comes of a job, by the first thing that fails; `DumpJob.runOn_cases` says that there is nothing
  else;
* `DumpJob.Written`: the output holds all bytes of the picture, and no other file has changed;
* `DumpJob.runOn_writes_picture`: the statements together.
-/

namespace DmgCore

namespace DumpJob

variable {φ : Type} [FileStore φ]

/-- The job done on a collection of files: its answer with the records sent on the way, and the
collection afterwards. -/
def runOn (job : DumpJob) (store : φ) : Logged (Except DumpFault DumpSummary) × φ :=
  (job.run : StateM φ (Logged (Except DumpFault DumpSummary))).run store

/-- The answer of a job that has written a picture: what it wrote, with one record of it. -/
def success (job : DumpJob) (rendering : Rendering) : Logged (Except DumpFault DumpSummary) :=
  ⟨.ok (.ofRendering rendering), [job.record rendering]⟩

/-! ### The picture -/

lemma picture_of_too_large (job : DumpJob) {image : List UInt8}
    (h : memorySize < image.length) :
    job.picture image = .error (.invalidImage job.image (.imageTooLarge image.length)) := by
  rw [picture, FlatMemory.ofImage_eq_error h]
  rfl

/-- A snapshot that fits is shown as the memory that holds it. -/
lemma picture_of_render {job : DumpJob} {image : List UInt8} {drawn : Logged Rendering}
    (h : image.length ≤ memorySize)
    (hrender : job.view.render (FlatMemory.padded image) = .ok drawn) :
    job.picture image = .ok drawn := by
  calc job.picture image
      = (job.view.render (FlatMemory.padded image)).mapError DumpFault.notRendered := by
        rw [picture, FlatMemory.ofImage_eq_ok h]
        rfl
    _ = .ok drawn := by
        rw [hrender]
        rfl

/-! ### The job -/

variable {job : DumpJob} {store : φ} {image : List UInt8} {rendering : Rendering}

lemma runOn_of_unreadable {reason : String}
    (h : FileStore.read store job.image = .error reason) :
    job.runOn store = (pure (.error (.unreadable job.image reason)), store) := by
  rw [runOn, run, StateT.run_bind, FileStore.run_read, h]
  rfl

/-- A snapshot that is too large is not shown, and no file is touched. -/
lemma runOn_of_too_large (hread : FileStore.read store job.image = .ok image)
    (h : memorySize < image.length) :
    job.runOn store =
      (pure (.error (.invalidImage job.image (.imageTooLarge image.length))), store) := by
  rw [runOn, run, StateT.run_bind, FileStore.run_read, hread]
  simp only [bind, job.picture_of_too_large h]
  rfl

/-- The picture of a snapshot that fits is written to the output. -/
lemma runOn_of_render (hread : FileStore.read store job.image = .ok image)
    (hfits : image.length ≤ memorySize)
    (hrender : job.view.render (FlatMemory.padded image) = .ok (pure rendering)) :
    job.runOn store =
      match FileStore.write store job.output rendering.bytes.toList with
      | .ok next => (job.success rendering, next)
      | .error reason => (pure (.error (.unwritable job.output reason)), store) := by
  rw [runOn, run, StateT.run_bind, FileStore.run_read, hread]
  simp only [bind, picture_of_render hfits hrender]
  change StateT.run ((FileAccess.write job.output rendering.bytes.toList :
    StateM φ (Except String Unit)) >>= _) store = _
  rw [StateT.run_bind, FileStore.run_write]
  cases FileStore.write store job.output rendering.bytes.toList <;> rfl

/-- A job fails with a message, has sent no record and leaves the files alone, or its answer
tells of a picture that it has written. -/
lemma runOn_cases (job : DumpJob) (store : φ) :
    (∃ fault text, fault.message? = some text ∧
      job.runOn store = (pure (.error fault), store)) ∨
    ∃ rendering next, FileStore.write store job.output rendering.bytes.toList = .ok next ∧
      job.runOn store = (job.success rendering, next) := by
  cases hread : FileStore.read store job.image with
  | error reason => exact Or.inl ⟨_, _, rfl, runOn_of_unreadable hread⟩
  | ok image =>
      rcases Nat.lt_or_ge memorySize image.length with hlarge | hfits
      · exact Or.inl ⟨_, _, rfl, runOn_of_too_large hread hlarge⟩
      · -- every snapshot that fits has a picture, so no other fault is met
        obtain ⟨rendering, hrender, -⟩ := job.view.exists_render (FlatMemory.padded image)
        have hrun := runOn_of_render hread hfits hrender
        cases hwrite : FileStore.write store job.output rendering.bytes.toList with
        | error reason =>
            rw [hwrite] at hrun
            exact Or.inl ⟨_, _, rfl, hrun⟩
        | ok next =>
            rw [hwrite] at hrun
            exact Or.inr ⟨rendering, next, hwrite, hrun⟩

/-- A job succeeds if its snapshot can be read and fits, and the output can be written. -/
lemma exists_runOn_ok (job : DumpJob) (hread : FileStore.read store job.image = .ok image)
    (hfits : image.length ≤ memorySize)
    (hwrite : ∀ bytes, ∃ next, FileStore.write store job.output bytes = .ok next) :
    ∃ rendering next, job.runOn store = (job.success rendering, next) := by
  obtain ⟨rendering, hrender, -⟩ := job.view.exists_render (FlatMemory.padded image)
  obtain ⟨next, hnext⟩ := hwrite rendering.bytes.toList
  have hrun := runOn_of_render hread hfits hrender
  rw [hnext] at hrun
  exact ⟨rendering, next, hrun⟩

/-- The output of a job holds the bytes of a picture and nothing else, and no other file has
changed. -/
def Written [LawfulFileStore φ] (job : DumpJob) (bytes : List UInt8) (store next : φ) : Prop :=
  ∃ file, LawfulFileStore.locate? store job.output = some file ∧
    LawfulFileStore.contents? next file = some bytes ∧
    ∀ other, other ≠ file →
      LawfulFileStore.contents? next other = LawfulFileStore.contents? store other

/-! ### The statements together -/

/-- **A dump job writes the picture of its snapshot, or nothing.**  If the snapshot cannot be
read, or has more bytes than there are addresses, the job fails and leaves the files alone.
Otherwise the snapshot is all that its file holds, and a picture is made of it: of the memory
that holds the snapshot with zeros behind it, in the size of the view, with three bytes for
each pixel, which on the screen are those of a shade and never those of a panel without power.
If the picture cannot be written, the files are left alone; if it can, the output holds its
bytes, no other file has changed, and the answer tells the size of the picture.  One record is
sent of a picture that was written, and none otherwise. -/
theorem runOn_writes_picture [LawfulFileStore φ] (job : DumpJob) (store : φ) :
    (∀ reason, FileStore.read store job.image = .error reason →
      job.runOn store = (pure (.error (.unreadable job.image reason)), store)) ∧
    ∀ image, FileStore.read store job.image = .ok image →
      (∃ file, LawfulFileStore.locate? store job.image = some file ∧
        LawfulFileStore.contents? store file = some image) ∧
      (65536 < image.length → job.runOn store =
        (pure (.error (.invalidImage job.image (.imageTooLarge image.length))), store)) ∧
      (image.length ≤ 65536 → ∃ (memory : FlatMemory) (rendering : Rendering),
        (∀ addr, Bus.read8 memory addr = (image[addr.toNat]?).getD 0) ∧
        job.view.render memory = .ok (pure rendering) ∧
        (rendering.Holds job.view.width job.view.height fun x y => job.view.pixel? memory x y) ∧
        (job.view = .frame → ∀ x < 160, ∀ y < 144, ∃ shade ∈ Color.shades,
          (∀ k < 3, rendering.bytes[3 * (y * 160 + x) + k]? = [shade.r, shade.g, shade.b][k]?) ∧
          [shade.r, shade.g, shade.b] ≠
            [Color.screenOff.r, Color.screenOff.g, Color.screenOff.b]) ∧
        (∀ reason, FileStore.write store job.output rendering.bytes.toList = .error reason →
          job.runOn store = (pure (.error (.unwritable job.output reason)), store)) ∧
        ∀ next, FileStore.write store job.output rendering.bytes.toList = .ok next →
          ∃ record : LogRecord, record.level = .info ∧
            job.runOn store = (⟨.ok ⟨job.view.width, job.view.height,
              job.view.width * job.view.height * 3⟩, [record]⟩, next) ∧
            job.Written rendering.bytes.toList store next) := by
  refine ⟨fun reason h => runOn_of_unreadable h, fun image hread =>
    ⟨LawfulFileStore.read_ok hread, fun hlarge => runOn_of_too_large hread hlarge,
      fun hfits => ?_⟩⟩
  -- the picture does not depend on whether it can be written
  obtain ⟨rendering, hrender, hholds⟩ := job.view.exists_render (FlatMemory.padded image)
  have hrun := runOn_of_render hread hfits hrender
  refine ⟨_, rendering, FlatMemory.read8_padded image, hrender, hholds,
    fun hview x hx y hy => ?_, fun reason hwrite => ?_, fun next hwrite => ?_⟩
  · rw [hview] at hholds
    obtain ⟨shade, hpixel, hbytes⟩ := hholds.byte x hx y hy
    have hmem := View.mem_shades_of_frame hx hy hpixel
    exact ⟨shade, hmem, hbytes, Color.channels_ne_screenOff hmem⟩
  · rw [hrun, hwrite]
  · refine ⟨job.record rendering, rfl, ?_, LawfulFileStore.write_ok hwrite⟩
    rw [hrun, hwrite, success, DumpSummary.ofRendering, hholds.width_eq, hholds.height_eq,
      hholds.size_bytes]

/-- A snapshot of one byte is shown in its own place: the file then holds the screen, and the
file beside it is left alone. -/
theorem runOn_writes_picture_same_path :
    let store : FileTree := ⟨[], [(["m"], [0x12]), (["n"], [0x34])], []⟩
    let job : DumpJob := { image := "m", output := "m", view := .frame }
    ∃ (record : LogRecord) (next : FileTree) (bytes : List UInt8),
      job.runOn store = (⟨.ok ⟨160, 144, 69120⟩, [record]⟩, next) ∧
      next.contents? ["m"] = some bytes ∧ bytes.length = 69120 ∧
      next.contents? ["n"] = some [0x34] := by
  intro store job
  have hplace : store.resolve "m" = .ok ["m"] :=
    FileTree.resolve_of_isFileName ⟨by decide, by simp, by decide⟩ rfl
  have hread : FileStore.read store job.image = .ok [0x12] := by
    change (store.read "m").mapError FileFault.message = _
    rw [FileTree.read_of_resolve hplace]
    rfl
  have hwrite : ∀ bytes, FileStore.write store job.output bytes = .ok (store.put ["m"] bytes) := by
    intro bytes
    change (store.write "m" bytes).mapError FileFault.message = _
    rw [FileTree.write_of_resolve hplace]
    rfl
  obtain ⟨-, hjob⟩ := runOn_writes_picture job store
  obtain ⟨-, -, hfits⟩ := hjob [0x12] hread
  obtain ⟨memory, rendering, -, -, hholds, -, -, hwritten⟩ := hfits (by decide)
  obtain ⟨record, -, hrun, file, hfile, hcontents, hothers⟩ := hwritten _ (hwrite _)
  have hbytes : job.view.width * job.view.height * 3 = 69120 := by decide
  obtain rfl : ["m"] = file := by
    change (store.resolve "m").toOption = some file at hfile
    rw [hplace] at hfile
    exact Option.some.inj hfile
  refine ⟨record, _, rendering.bytes.toList, ?_, hcontents, ?_, ?_⟩
  · rw [hrun, hbytes]
    rfl
  · rw [Array.length_toList, hholds.size_bytes, hbytes]
  · have hother : (["n"] : Location) ≠ ["m"] := by decide
    exact hothers ["n"] hother

end DumpJob

end DmgCore
