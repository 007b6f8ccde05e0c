import SolidDrawing.Proofs.DiskGrowth
import SolidDrawing.Proofs.JobEncoding

/-!
# What jobs do to a disk

A job that is refused changes no file: at most it makes the directory that the page would have been in
(`Settings.disk_of_refused`). A finished job has written what its report says, unless both paths lead to one file, which
has the SVG then (`Settings.disk_of_done`).
-/

namespace SolidDrawing

namespace Disk

/-! ### Access to a disk -/

variable {directory path : String} {bytes : List UInt8} {d d' : Disk} {place : Place}

theorem grown_of_run {p : Path} {result : Except String Unit}
    (h : ((fileSystem directory : FileSystem (StateM Disk)).makeDirectories p).run.run d = (result, d')) :
    Grown (d'.LeadsThrough p.isRooted p.steps) d d' := by
  have hd : (d.makeDirectories p).2 = d' := congrArg Prod.snd h
  rw [← hd]
  exact grown_makeDirectories d p

/-- At most directories on the way to the file of a path were made, and none where all of them are there. -/
structure MadeFor (path : String) (d d' : Disk) : Prop where
  grown : Grown (d'.IsAlong path) d d'
  same : ∀ parent place, Path.parent? ⟨path⟩ = some parent →
    d.walk (d.start parent.isRooted) parent.steps = .ok place → d' = d

theorem madeFor_of_run {result : Except String Unit}
    (h : ((fileSystem directory : FileSystem (StateM Disk)).makeFor path).run.run d = (result, d')) :
    MadeFor path d d' := by
  unfold FileSystem.makeFor at h
  cases hparent : Path.parent? ⟨path⟩ with
  | none =>
    rw [hparent] at h
    cases h
    refine ⟨.refl _ d, fun parent place hsome => ?_⟩
    rw [hparent] at hsome
    cases hsome
  | some parent =>
    rw [hparent] at h
    have hd : (d.makeDirectories parent).2 = d' := congrArg Prod.snd h
    constructor
    case grown => exact (grown_of_run h).imp fun place hplace => ⟨parent, hparent, hplace⟩
    case same =>
      intro parent' place hsome hthere
      obtain rfl : parent = parent' := Option.some.inj (hparent.symm.trans hsome)
      rw [← hd, makeDirectories_of_walk hthere]

theorem write_of_run (h : ((fileSystem directory : FileSystem (StateM Disk)).write ⟨path⟩ bytes).run.run d =
    (.ok (), d')) : d.write ⟨path⟩ bytes = .ok d' := by
  simp only [fileSystem, ExceptT.run, StateT.run, modifyGet, MonadStateOf.modifyGet, StateT.modifyGet] at h
  split at h
  case h_1 hwrite =>
    cases h
    exact hwrite
  case h_2 => cases h

theorem saved_of_save
    (h : ((fileSystem directory : FileSystem (StateM Disk)).save path bytes).run.run d = (.ok (), d')) :
    ∃ place, Saved path bytes d d' place := by
  simp only [FileSystem.save] at h
  cases hparent : Path.parent? ⟨path⟩ with
  | none =>
    rw [hparent] at h
    exact saved_of_write (.refl _ d) (write_of_run h)
  | some parent =>
    rw [hparent] at h
    dsimp only at h
    split at h
    case isTrue => exact saved_of_write (.refl _ d) (write_of_run h)
    case isFalse =>
      obtain ⟨⟨⟩, d₁, hmade, hwrite⟩ := exists_of_run_bind h
      have hgrown : Grown (d₁.IsAlong path) d d₁ :=
        (grown_of_run hmade).imp fun place hplace => ⟨parent, hparent, hplace⟩
      exact saved_of_write hgrown (write_of_run hwrite)

/-- The files of a page: the PDF is saved, and then the SVG if there is a path for it. -/
theorem saved_of_saveAll {config : SheetConfig Float} {layout : Layout Float} {pdf : String} {svg : Option String}
    (h : ((fileSystem directory : FileSystem (StateM Disk)).saveAll config layout ⟨some pdf, svg⟩).run.run d =
      (.ok (), d')) :
    ∃ d₁ place, Saved pdf (SheetFormat.pdf.bytes config layout) d d₁ place ∧
      (svg = none ∧ d' = d₁ ∨
        ∃ path place', svg = some path ∧ Saved path (SheetFormat.svg.bytes config layout) d₁ d' place') := by
  obtain ⟨⟨⟩, d₁, hpdf, h⟩ := exists_of_run_bind h
  obtain ⟨place, hsaved⟩ := saved_of_save hpdf
  refine ⟨d₁, place, hsaved, ?_⟩
  cases svg with
  | none =>
    cases h
    exact .inl ⟨rfl, rfl⟩
  | some path =>
    obtain ⟨place', hsaved'⟩ := saved_of_save h
    exact .inr ⟨path, place', rfl, hsaved'⟩

end Disk

/-! ### Refused jobs -/

/-- The solid of the job is not built, or there is no kernel to build it with. -/
inductive JobError.IsOfSolid : JobError → Prop
  | build (e : BuildError Float) : IsOfSolid (.build e)
  | settings (e : SettingsError) : IsOfSolid (.settings e)
  | kernel (reason : String) : IsOfSolid (.kernel (.notAvailable reason))

/-- The drawing of the job has a fault, or there is no renderer to draw it with. -/
inductive JobError.IsOfPage : JobError → Prop
  | drawing (fault : DrawingFault) : IsOfPage (.project (.invalid fault))
  | renderer (reason : String) : IsOfPage (.renderer (.notAvailable reason))

namespace Settings

/-- A run on a disk, from the working directory with the given text. -/
def runOn (s : Settings) (names : JobNames) (directory : String) (job : Job) (d : Disk) :
    Except JobError JobReport × Disk :=
  (s.runJob (Disk.fileSystem directory : FileSystem (StateM Disk)) names job).run.run d

/-- The error of a solid that a run ends with. -/
def planError? : Except JobError JobReport → Option (PlanError Float)
  | .error (.build (.plan e)) => some e
  | _ => none

/-- The fault of a drawing that a run ends with. -/
def drawingFault? : Except JobError JobReport → Option DrawingFault
  | .error (.project (.invalid fault)) => some fault
  | _ => none

theorem eq_of_planError? {result : Except JobError JobReport} {e : PlanError Float} (h : planError? result = some e) :
    result = .error (.build (.plan e)) := by
  unfold planError? at h
  split at h
  case h_1 =>
    cases h
    rfl
  case h_2 => cases h

theorem eq_of_drawingFault? {result : Except JobError JobReport} {fault : DrawingFault}
    (h : drawingFault? result = some fault) : result = .error (.project (.invalid fault)) := by
  unfold drawingFault? at h
  split at h
  case h_1 =>
    cases h
    rfl
  case h_2 => cases h

section

variable (s : Settings) {names : JobNames} {directory : String} {job : Job} {d d' : Disk}

theorem ending_runOn (hnames : Function.Injective names.sheet.view) {result : Except JobError JobReport}
    (h : s.runOn names directory job d = (result, d')) :
    s.Ending (Disk.fileSystem directory) names job d result d' := by
  have hending := s.ending_runJob (Disk.fileSystem directory) hnames job d
  change s.Ending _ names job d (s.runOn names directory job d).1 (s.runOn names directory job d).2 at hending
  rw [h] at hending
  exact hending

theorem runOn_eq_ok {pdf : String} {svg : Option String} (hok : (s.runOn names directory job d).1.isOk = true)
    (hpdf : absolutePath directory job.pdf = .ok pdf) (hsvg : job.svg.mapM (absolutePath directory) = .ok svg) :
    (s.runOn names directory job d).1 = .ok ⟨pdf, svg, job.solid, job.drawing⟩ := by
  cases hdone : (s.runOn names directory job d).1 with
  | error e =>
    rw [hdone] at hok
    cases hok
  | ok report =>
    obtain ⟨pdf', svg', hpdf', hsvg', rfl⟩ := s.report_eq (Disk.fileSystem directory) hdone
    obtain rfl : pdf = pdf' := Except.ok.inj (hpdf.symm.trans hpdf')
    obtain rfl : svg = svg' := Except.ok.inj (hsvg.symm.trans hsvg')
    rfl

/-- A job whose solid is refused leaves the disk as it was. One whose page is refused has made the directories that the
PDF was to lie in, as far as they were not there, and changed nothing else. -/
theorem disk_of_refused (hnames : Function.Injective names.sheet.view) {e : JobError}
    (h : s.runOn names directory job d = (.error e, d')) :
    (e.IsOfSolid → d' = d) ∧
      (e.IsOfPage → ∃ pdf, absolutePath directory job.pdf = .ok pdf ∧ Disk.MadeFor pdf d d') := by
  cases s.ending_runOn hnames h with
  | early hearly =>
    -- no error of the page comes before the solid is there
    refine ⟨fun _ => rfl, fun hpage => ?_⟩
    cases hpage with
    | drawing => cases hearly
    | renderer => cases hearly
  | build e => exact ⟨fun _ => rfl, nofun⟩
  | directory absolute made => exact ⟨nofun, nofun⟩
  | renderer absolute made => exact ⟨nofun, fun _ => ⟨_, absolute, Disk.madeFor_of_run made⟩⟩
  | drawing absolute made => exact ⟨nofun, fun _ => ⟨_, absolute, Disk.madeFor_of_run made⟩⟩
  | file absolute made saved => exact ⟨nofun, nofun⟩

end

end Settings

/-- A disc of which there is no sketch. -/
def bareJob : Job := { discJob with solid := ⟨"disc", [.extrude ⟨2⟩]⟩ }

/-- A disc whose drawing has a dimension of a view that it has not. -/
def misplacedJob : Job :=
  { discJob with drawing := { discJob.drawing with dimensions := [⟨"side", "linear", "2", []⟩] } }

/-- An empty home. -/
def emptyHome : Disk := ⟨[(["home"], .directory)], ["home"]⟩

namespace Settings

theorem runOn_bareJob : ∃ e, (runOn {} .numbered "/home" bareJob emptyHome).1 = .error (.build (.plan e)) := by
  have hplan : (planError? (runOn {} .numbered "/home" bareJob emptyHome).1).isSome = true := by decide +kernel
  obtain ⟨e, he⟩ := Option.isSome_iff_exists.1 hplan
  exact ⟨e, eq_of_planError? he⟩

theorem runOn_misplacedJob : (runOn {} .numbered "/home" misplacedJob emptyHome).1 =
    .error (.project (.invalid (.unknownView "side" 0))) :=
  eq_of_drawingFault? (by decide +kernel)

theorem disk_of_refused_misplacedJob :
    Function.Injective JobNames.numbered.sheet.view ∧
      (∃ e, runOn {} .numbered "/home" bareJob emptyHome = (.error (.build (.plan e)), emptyHome)) ∧
      ∃ d' pdf, runOn {} .numbered "/home" misplacedJob emptyHome =
          (.error (.project (.invalid (.unknownView "side" 0))), d') ∧
        absolutePath "/home" misplacedJob.pdf = .ok pdf ∧ Disk.MadeFor pdf emptyHome d' := by
  obtain ⟨e, hplan⟩ := runOn_bareJob
  have hfault := runOn_misplacedJob
  refine ⟨Sheets.numbered_view_injective, ⟨e, ?_⟩, ?_⟩
  case refine_1 =>
    rcases hdone : runOn {} .numbered "/home" bareJob emptyHome with ⟨result, d'⟩
    rw [hdone] at hplan
    subst hplan
    have hsame : d' = emptyHome := (disk_of_refused {} Sheets.numbered_view_injective hdone).1 (.build _)
    rw [hsame]
  case refine_2 =>
    rcases hdone : runOn {} .numbered "/home" misplacedJob emptyHome with ⟨result, d'⟩
    rw [hdone] at hfault
    subst hfault
    obtain ⟨pdf, hpdf, hmade⟩ := (disk_of_refused {} Sheets.numbered_view_injective hdone).2 (.drawing _)
    exact ⟨d', pdf, rfl, hpdf, hmade⟩

/-- A drawing with a fault is refused on a disk with a new directory. -/
theorem makes_directory_misplacedJob :
    let done := runOn {} .numbered "/home" misplacedJob emptyHome
    done.1 = .error (.project (.invalid (.unknownView "side" 0))) ∧
      emptyHome.find? ["home", "out"] = none ∧ done.2.find? ["home", "out"] = some .directory := by
  intro done
  exact ⟨runOn_misplacedJob, by decide, by decide +kernel⟩

end Settings

/-! ### Finished jobs -/

namespace Disk

/-- What a finished job leaves on a disk. The PDF is there unless the SVG, which is written last, went into the same
file. -/
structure Delivered (pdf svg : List UInt8) (report : JobReport) (d d' : Disk) : Prop where
  pdf_file : ∃ place, d'.fileAt report.pdf = some place
  pdf_read : (∀ path ∈ report.svg, d'.fileAt path ≠ d'.fileAt report.pdf) → d'.read ⟨report.pdf⟩ = .ok pdf
  svg_read : ∀ path ∈ report.svg, d'.read ⟨path⟩ = .ok svg
  shared : ∀ path ∈ report.svg, d'.fileAt path = d'.fileAt report.pdf → d'.read ⟨report.pdf⟩ = .ok svg
  others : ∀ place, d'.fileAt report.pdf ≠ some place → (∀ path ∈ report.svg, d'.fileAt path ≠ some place) →
    GrownAt (fun place => d'.IsAlong report.pdf place ∨ ∃ path ∈ report.svg, d'.IsAlong path place) d d' place

variable {pdf : String} {svg : Option String} {bytes bytes' : List UInt8} {solid : SolidSpec Float}
  {drawing : DrawingSpec Float} {d d₀ d₁ d' : Disk} {place place' : Place}

theorem delivered_of_saved (hgrown : Grown (d₀.IsAlong pdf) d d₀) (hpdf : Saved pdf bytes d₀ d' place) :
    Delivered bytes bytes' ⟨pdf, none, solid, drawing⟩ d d' := by
  constructor
  case pdf_file => exact ⟨place, hpdf.fileAt⟩
  case pdf_read => exact fun _ => read_eq_ok hpdf.fileAt hpdf.file
  case svg_read => exact nofun
  case shared => exact nofun
  case others =>
    intro other hne _
    have hne : other ≠ place := fun heq => hne (heq ▸ hpdf.fileAt)
    have hmade : GrownAt (d'.IsAlong pdf) d d₀ other := (hgrown.entry other).imp hpdf.keeps.isAlong
    exact (hmade.trans (hpdf.others other hne)).imp .inl

theorem delivered_of_saved_saved {path : String} (hgrown : Grown (d₀.IsAlong pdf) d d₀)
    (hpdf : Saved pdf bytes d₀ d₁ place) (hsvg : Saved path bytes' d₁ d' place') :
    Delivered bytes bytes' ⟨pdf, some path, solid, drawing⟩ d d' := by
  have hfile : d'.fileAt pdf = some place := hsvg.keeps.fileAt hpdf.fileAt
  constructor
  case pdf_file => exact ⟨place, hfile⟩
  case pdf_read =>
    intro hapart
    -- the SVG went into another file, and what is in a file stays there
    have hne : place ≠ place' := by
      rintro rfl
      exact hapart path rfl (hsvg.fileAt.trans hfile.symm)
    exact read_eq_ok hfile ((hsvg.others place hne).stays hpdf.file)
  case svg_read =>
    rintro _ ⟨⟩
    exact read_eq_ok hsvg.fileAt hsvg.file
  case shared =>
    rintro _ ⟨⟩ hsame
    exact read_eq_ok (hsame.symm.trans hsvg.fileAt) hsvg.file
  case others =>
    intro other hother hother'
    have hne : other ≠ place := fun heq => hother (heq ▸ hfile)
    have hne' : other ≠ place' := fun heq => hother' path rfl (heq ▸ hsvg.fileAt)
    have hmade : GrownAt (d₁.IsAlong pdf) d d₁ other :=
      ((hgrown.entry other).imp hpdf.keeps.isAlong).trans (hpdf.others other hne)
    refine .trans (hmade.imp fun halong => .inl (hsvg.keeps.isAlong halong)) ?_
    exact (hsvg.others other hne').imp fun halong => .inr ⟨path, rfl, halong⟩

end Disk

namespace Settings

/-- A finished job has left both its files on the disk, whatever was there, and nothing else but directories along their
paths. Only if both paths lead to one file is the PDF gone. -/
theorem disk_of_done (s : Settings) {names : JobNames} (hnames : Function.Injective names.sheet.view)
    {directory : String} {job : Job} {report : JobReport} {d d' : Disk}
    (h : s.runOn names directory job d = (.ok report, d')) :
    let layout := s.layout names job.drawing
    Disk.Delivered (Pdf.document s.sheet layout) (Svg.document s.sheet layout).toUTF8.toList report d d' := by
  intro layout
  cases s.ending_runOn hnames h with
  | done absolute made saved =>
    have hgrown := (Disk.madeFor_of_run made).grown
    obtain ⟨d₁, place, hpdf, ⟨rfl, rfl⟩ | ⟨path, place', rfl, hsvg⟩⟩ := Disk.saved_of_saveAll saved
    · exact Disk.delivered_of_saved hgrown hpdf
    · exact Disk.delivered_of_saved_saved hgrown hpdf hsvg

theorem disk_of_done_discJob :
    let layout := layout {} .numbered discJob.drawing
    Function.Injective JobNames.numbered.sheet.view ∧
      ∃ d', runOn {} .numbered "/home" discJob emptyHome =
          (.ok ⟨"/home/out/disc.pdf", some "/home/disc.svg", discJob.solid, discJob.drawing⟩, d') ∧
        d'.read ⟨"/home/out/disc.pdf"⟩ = .ok (Pdf.document .a4 layout) ∧
        d'.read ⟨"/home/disc.svg"⟩ = .ok (Svg.document .a4 layout).toUTF8.toList := by
  intro layout
  have hreport : (runOn {} .numbered "/home" discJob emptyHome).1 =
      .ok ⟨"/home/out/disc.pdf", some "/home/disc.svg", discJob.solid, discJob.drawing⟩ :=
    runOn_eq_ok {} (by decide +kernel) (by decide +kernel) (by decide +kernel)
  have hapart : (runOn {} .numbered "/home" discJob emptyHome).2.fileAt "/home/disc.svg" ≠
      (runOn {} .numbered "/home" discJob emptyHome).2.fileAt "/home/out/disc.pdf" := by decide +kernel
  rcases hdone : runOn {} .numbered "/home" discJob emptyHome with ⟨result, d'⟩
  rw [hdone] at hapart hreport
  subst hreport
  have hdelivered := disk_of_done {} Sheets.numbered_view_injective hdone
  refine ⟨Sheets.numbered_view_injective, d', rfl, hdelivered.pdf_read ?_, hdelivered.svg_read _ rfl⟩
  rintro _ ⟨⟩
  exact hapart

end Settings

/-- A disc with one path for both files. -/
def sharedJob : Job := { discJob with pdf := "page", svg := some "page" }

theorem Pdf.head?_document (c : SheetConfig Float) (l : Layout Float) : (document c l).head? = some 37 := by
  have hheader : header.head? = some 37 := by decide +kernel
  simp [document, List.head?_append, hheader]

/-- A run that ends well, with a report that names a PDF where there is none. -/
theorem Settings.overwrites_sharedJob :
    let done := runOn {} .numbered "/home" sharedJob emptyHome
    done.1 = .ok ⟨"/home/page", some "/home/page", sharedJob.solid, sharedJob.drawing⟩ ∧
      ∀ layout, done.2.read ⟨"/home/page"⟩ ≠ .ok (Pdf.document SheetConfig.a4 layout) := by
  intro done
  refine ⟨runOn_eq_ok {} (by decide +kernel) (by decide +kernel) (by decide +kernel), fun layout hread => ?_⟩
  have hsvg : (done.2.read ⟨"/home/page"⟩).toOption.bind List.head? = some 60 := by decide +kernel
  rw [hread] at hsvg
  have hhead : (Pdf.document SheetConfig.a4 layout).head? = some 60 := hsvg
  rw [Pdf.head?_document] at hhead
  cases hhead

end SolidDrawing
