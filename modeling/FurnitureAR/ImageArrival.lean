import FurnitureAR.CellImages
import FurnitureAR.Library.Observation
import Mathlib.Data.List.Nodup

/-!
# Images arrive

A cell that has been bound waits for the one download that the binding has asked for. Cells are
bound again, given up and used for other furniture meanwhile, and downloads overtake each other; the
image arrives nevertheless unless the binding ends first or the download itself fails.
-/
namespace FurnitureAR

open Execution

namespace Catalogue

variable {isWellFormed : String → Bool} {isDecodable : Data → Bool}
variable {catalogue next : Catalogue isWellFormed}

/-! ## What a step does to what is under way -/

/-- The cell that a row is given. -/
def boundCell (catalogue : Catalogue isWellFormed) (reused : Option CellRef) : CellRef :=
  reused.getD catalogue.table.nextCell

/-- The cell has lost its image, and its download is the latest. -/
structure Binds (reference : CellRef) (catalogue next : Catalogue isWellFormed) : Prop where
  bound : ∃ imageUrlString cell,
    next.table.cells = Function.update catalogue.table.cells reference (some cell) ∧
      cell.backgroundImageView.imageUrlString = some imageUrlString ∧
      next.pending = catalogue.pending ++
        [⟨catalogue.downloads.length, reference, imageUrlString⟩]
  queued : next.mainQueue = catalogue.mainQueue
  downloads : ∃ url, next.downloads = catalogue.downloads ++ [url]
  furnitures : next.table.furnitures = catalogue.table.furnitures

theorem binds_cellForRowAt {row : Nat} {reused : Option CellRef}
    (taken : catalogue.cellForRowAt row reused = .ok next) :
    Binds (catalogue.boundCell reused) catalogue next := by
  unfold Catalogue.cellForRowAt at taken
  split at taken
  next shown reference cell table listed dequeued =>
    -- A cell is reused or made; apart from that the table is the same.
    have which : reference = catalogue.boundCell reused ∧
        table.cells = catalogue.table.cells ∧ table.furnitures = catalogue.table.furnitures := by
      unfold FurnitureListTableView.dequeueReusableCell at dequeued
      split at dequeued
      · cases dequeued
        exact ⟨rfl, rfl, rfl⟩
      · split at dequeued
        · cases dequeued
        · obtain ⟨known, -, same⟩ := Option.map_eq_some_iff.mp dequeued
          cases same
          exact ⟨rfl, rfl, rfl⟩
    rw [FurnitureListTableView.cellForRowAt] at taken
    cases found : table.furnitures[row]? with
    | none =>
      rw [found] at taken
      cases taken
    | some furniture =>
      rw [found] at taken
      simp only [FurnitureTableViewCell.setViewModel_some] at taken
      cases taken
      obtain ⟨rfl, cells, furnitures⟩ := which
      exact ⟨⟨_, _, congrArg (Function.update · _ _) cells, rfl, rfl⟩, rfl, ⟨_, rfl⟩, furnitures⟩
  · cases taken

/-- A completion has been called: either it has sent its image, or there is none. -/
theorem downloadCompleted_cases {download : DownloadRef} {imageData : Option Data}
    (taken : catalogue.downloadCompleted isDecodable download imageData = .ok next) :
    ∃ pending ∈ catalogue.pending, pending.download = download ∧
      next = { catalogue with pending := catalogue.pending.erase pending }.completion isDecodable
        pending imageData := by
  unfold downloadCompleted at taken
  split at taken
  · cases taken
  next pending found =>
    have this : pending.download = download := by simpa using List.find?_some found
    exact ⟨pending, List.mem_of_find?_eq_some found, this, (Except.ok.inj taken).symm⟩

theorem discardCell_cases {reference : CellRef}
    (taken : catalogue.discardCell reference = .ok next) :
    ∃ table, table.cells = Function.update catalogue.table.cells reference none ∧
      table.furnitures = catalogue.table.furnitures ∧
      next = { catalogue with table := table } := by
  unfold Catalogue.discardCell FurnitureListTableView.discardCell at taken
  cases hidden : catalogue.table.isDisplayed reference with
  | true => simp [hidden] at taken
  | false =>
    simp only [hidden] at taken
    cases taken
    exact ⟨{ catalogue.table with
      cells := Function.update catalogue.table.cells reference none }, rfl, rfl, rfl⟩

/-- Completions touch nothing but the main queue. -/
theorem completion_eq (isDecodable : Data → Bool) (catalogue : Catalogue isWellFormed)
    (pending : PendingDownload) (imageData : Option Data) :
    ∃ sent, catalogue.completion isDecodable pending imageData =
      { catalogue with mainQueue := catalogue.mainQueue ++ sent } := by
  unfold completion
  split
  · split
    · exact ⟨_, rfl⟩
    · exact ⟨[], by simp⟩
  · exact ⟨[], by simp⟩

theorem runMain_cases {position : Nat} (taken : catalogue.runMain position = .ok next) :
    ∃ closure, catalogue.mainQueue[position]? = some closure ∧
      next.mainQueue = catalogue.mainQueue.eraseIdx position ∧
      next.pending = catalogue.pending ∧ next.downloads = catalogue.downloads ∧
      next.table.furnitures = catalogue.table.furnitures ∧
      next.table.cells = Function.update catalogue.table.cells closure.cell
        ((catalogue.table.cells closure.cell).map fun cell => { cell with
          backgroundImageView := cell.backgroundImageView.showDownloaded closure.imageUrlString
            closure.downloadedImage }) := by
  unfold Catalogue.runMain at taken
  split at taken
  · cases taken
  next closure queued =>
    refine ⟨closure, queued, ?_⟩
    cases known : catalogue.table.cells closure.cell with
    -- The cell has gone, and the closure has no effect.
    | none =>
      simp only [known] at taken
      cases taken
      refine ⟨rfl, rfl, rfl, rfl, ?_⟩
      rw [Option.map_none, ← known, Function.update_eq_self]
    | some cell =>
      simp only [known] at taken
      cases taken
      exact ⟨rfl, rfl, rfl, rfl, rfl⟩

/-! ## Bindings and their downloads -/

/-- The observer knows which download each binding has asked for, and which downloads have
brought no image. -/
structure BindingRecord where
  asked : CellRef → Option DownloadRef := fun _ => none
  failed : List DownloadRef := []

def observeBindings (isDecodable : Data → Bool) (record : BindingRecord)
    (catalogue : Catalogue isWellFormed) (event : Event isWellFormed)
    (_ : Catalogue isWellFormed) : BindingRecord :=
  match event with
  | .cellForRowAt _ reused => { record with
      asked := Function.update record.asked (catalogue.boundCell reused)
        (some catalogue.downloads.length) }
  | .discardCell reference =>
    { record with asked := Function.update record.asked reference none }
  | .downloadCompleted download imageData =>
    if imageData.any isDecodable then record
    else { record with failed := record.failed ++ [download] }
  | _ => record

abbrev BindingHistory (isWellFormed : String → Bool) :=
  Observed (Catalogue isWellFormed) BindingRecord

section Phases

variable (reference : CellRef) (download : DownloadRef)

/-- The cell is still bound as it was when the download was asked for. -/
def Binding (history : BindingHistory isWellFormed) (imageUrlString : String) : Prop :=
  history.record.asked reference = some download ∧
    ∃ cell, history.state.table.cells reference = some cell ∧
      cell.backgroundImageView.imageUrlString = some imageUrlString

/-- The download that the binding has asked for has not completed. -/
def Waits (history : BindingHistory isWellFormed) : Prop :=
  ∃ imageUrlString, Binding reference download history imageUrlString ∧
    ⟨download, reference, imageUrlString⟩ ∈ history.state.pending

/-- The image is on its way to the main queue. -/
def Arrives (history : BindingHistory isWellFormed) : Prop :=
  ∃ imageUrlString data, Binding reference download history imageUrlString ∧
    ⟨reference, imageUrlString, ⟨download, data⟩⟩ ∈ history.state.mainQueue

/-- The cell shows an image of its furniture. -/
def Shown (catalogue : Catalogue isWellFormed) : Prop :=
  ∃ cell image furniture, catalogue.table.cells reference = some cell ∧
    cell.furnitureImage = some image ∧ cell.viewModel = some furniture ∧
    DownloadedFrom catalogue.downloads image.download furniture.imageUrl

/-- The binding is over, or its download has failed, or it has its image. -/
def Settled (history : BindingHistory isWellFormed) : Prop :=
  history.record.asked reference ≠ some download ∨ download ∈ history.record.failed ∨
    Shown reference history.state

end Phases

variable {record : BindingRecord} {reference : CellRef} {download : DownloadRef}
  {event : Event isWellFormed}

/-- Downloads that are under way have numbers of their own, and bindings know only numbers that
have been given. -/
structure Numbered (history : BindingHistory isWellFormed) : Prop where
  pending : ∀ pending ∈ history.state.pending, pending.download < history.state.downloads.length
  distinct : (history.state.pending.map PendingDownload.download).Nodup
  asked : ∀ reference download, history.record.asked reference = some download →
    download < history.state.downloads.length

theorem Numbered.step (numbered : Numbered ⟨catalogue, record⟩) (honest : catalogue.Honest)
    (taken : Catalogue.step isDecodable catalogue event = .ok next) :
    Numbered ⟨next, observeBindings isDecodable record catalogue event next⟩ := by
  obtain ⟨pending, distinct, asked⟩ := numbered
  dsimp only at pending distinct asked
  cases event with
  | insertNewFurnitures newFurnitures =>
    simp only [Catalogue.step,
      FurnitureListTableView.insertNewFurnitures_eq honest.coherent.agree] at taken
    cases taken
    exact ⟨pending, distinct, asked⟩
  | cellForRowAt row reused =>
    obtain ⟨⟨imageUrlString, cell, -, -, more⟩, -, ⟨url, longer⟩, -⟩ := binds_cellForRowAt taken
    have size : next.downloads.length = catalogue.downloads.length + 1 := by simp [longer]
    -- The new download gets the next number, above all that have been given.
    have below : ∀ {download}, download < catalogue.downloads.length →
        download < next.downloads.length := by omega
    constructor
    · intro other member
      dsimp only at member ⊢
      rw [more] at member
      rcases List.mem_append.mp member with old | new
      · exact below (pending other old)
      · obtain rfl := List.mem_singleton.mp new
        exact size ▸ Nat.lt_succ_self _
    · dsimp only
      rw [more, List.map_append, List.map_singleton, List.nodup_append]
      refine ⟨distinct, List.nodup_singleton _, fun given old number new => ?_⟩
      obtain ⟨other, member, rfl⟩ := List.mem_map.mp old
      obtain rfl := List.mem_singleton.mp new
      exact Nat.ne_of_lt (pending other member)
    · intro other download' given
      dsimp only [observeBindings] at given ⊢
      by_cases here : other = catalogue.boundCell reused
      · rw [here, Function.update_self] at given
        cases given
        exact size ▸ Nat.lt_succ_self _
      · rw [Function.update_of_ne here] at given
        exact below (asked other download' given)
  | didEndDisplaying row =>
    cases taken
    exact ⟨pending, distinct, asked⟩
  | discardCell reference' =>
    obtain ⟨table, -, -, rfl⟩ := discardCell_cases taken
    refine ⟨pending, distinct, fun other download' given => ?_⟩
    dsimp only [observeBindings] at given
    by_cases here : other = reference'
    · rw [here, Function.update_self] at given
      cases given
    · rw [Function.update_of_ne here] at given
      exact asked other download' given
  | downloadCompleted completed imageData =>
    obtain ⟨spent, -, -, rfl⟩ := downloadCompleted_cases taken
    obtain ⟨sent, same⟩ := completion_eq isDecodable
      { catalogue with pending := catalogue.pending.erase spent } spent imageData
    rw [same]
    refine ⟨fun other member => pending other (List.mem_of_mem_erase member), ?_, ?_⟩
    · exact (List.erase_sublist.map _).nodup distinct
    · intro other download' given
      apply asked other download'
      simp only [observeBindings] at given
      split at given <;> exact given
  | runMain position =>
    obtain ⟨closure, -, -, same, sizes, -, -⟩ := runMain_cases taken
    refine ⟨?_, ?_, ?_⟩
    · dsimp only
      rw [same, sizes]
      exact pending
    · dsimp only
      rw [same]
      exact distinct
    · dsimp only
      rw [sizes]
      exact asked

/-! ## What becomes of a binding -/

/-- The image view still asks for what it asked for, and has not lost its image. -/
structure KeepsImage (before after : DownloadingImageView) : Prop where
  imageUrlString : after.imageUrlString = before.imageUrlString
  image : before.image.isSome → after.image.isSome

theorem keepsImage_showDownloaded (imageView : DownloadingImageView) (imageUrlString : String)
    (downloadedImage : UIImage) :
    KeepsImage imageView (imageView.showDownloaded imageUrlString downloadedImage) := by
  unfold DownloadingImageView.showDownloaded
  split
  · exact ⟨rfl, fun _ => rfl⟩
  · exact ⟨rfl, id⟩

/-- While a binding lasts, its cell keeps what it has. -/
theorem cell_kept (numbered : Numbered ⟨catalogue, record⟩) (honest : catalogue.Honest)
    (taken : Catalogue.step isDecodable catalogue event = .ok next)
    (before : record.asked reference = some download)
    (after : (observeBindings isDecodable record catalogue event next).asked reference =
      some download) {cell : FurnitureTableViewCell isWellFormed}
    (known : catalogue.table.cells reference = some cell) :
    ∃ cell', next.table.cells reference = some cell' ∧
      KeepsImage cell.backgroundImageView cell'.backgroundImageView := by
  have same : KeepsImage cell.backgroundImageView cell.backgroundImageView := ⟨rfl, id⟩
  cases event with
  | insertNewFurnitures newFurnitures =>
    simp only [Catalogue.step,
      FurnitureListTableView.insertNewFurnitures_eq honest.coherent.agree] at taken
    cases taken
    exact ⟨cell, known, same⟩
  | cellForRowAt row reused =>
    obtain ⟨imageUrlString, other, cells, -, -⟩ := (binds_cellForRowAt taken).bound
    dsimp only [observeBindings] at after
    by_cases here : reference = catalogue.boundCell reused
    · -- The number of a new binding has not been given before.
      rw [here, Function.update_self] at after
      cases after
      exact absurd (numbered.asked reference _ before) (Nat.lt_irrefl _)
    · exact ⟨cell, by rw [cells, Function.update_of_ne here, known], same⟩
  | didEndDisplaying row =>
    cases taken
    exact ⟨cell, known, same⟩
  | discardCell reference' =>
    obtain ⟨table, cells, -, rfl⟩ := discardCell_cases taken
    dsimp only [observeBindings] at after
    by_cases here : reference = reference'
    · rw [here, Function.update_self] at after
      cases after
    · exact ⟨cell, by rw [cells, Function.update_of_ne here, known], same⟩
  | downloadCompleted completed imageData =>
    obtain ⟨spent, -, -, rfl⟩ := downloadCompleted_cases taken
    obtain ⟨sent, unchanged⟩ := completion_eq isDecodable
      { catalogue with pending := catalogue.pending.erase spent } spent imageData
    exact ⟨cell, by rw [unchanged]; exact known, same⟩
  | runMain position =>
    obtain ⟨closure, -, -, -, -, -, cells⟩ := runMain_cases taken
    by_cases here : reference = closure.cell
    · subst here
      have keeps := keepsImage_showDownloaded cell.backgroundImageView closure.imageUrlString
        closure.downloadedImage
      rw [known, Option.map_some] at cells
      exact ⟨_, by rw [cells, Function.update_self], keeps⟩
    · exact ⟨cell, by rw [cells, Function.update_of_ne here, known], same⟩

/-- What a cell shows belongs to its furniture. -/
theorem shown_of_image (honest : catalogue.Honest) {cell : FurnitureTableViewCell isWellFormed}
    (known : catalogue.table.cells reference = some cell)
    (some : cell.backgroundImageView.image.isSome) : Shown reference catalogue := by
  obtain ⟨image, shows⟩ := Option.isSome_iff_exists.mp some
  obtain ⟨furniture, bound, asked⟩ := (honest.cells known).image image shows
  exact ⟨cell, image, furniture, known, shows, bound, asked⟩

/-- A binding lasts, or it is settled. -/
theorem binding_step {imageUrlString : String} (numbered : Numbered ⟨catalogue, record⟩)
    (honest : catalogue.Honest) (taken : Catalogue.step isDecodable catalogue event = .ok next)
    (binding : Binding reference download ⟨catalogue, record⟩ imageUrlString) :
    Settled reference download ⟨next, observeBindings isDecodable record catalogue event next⟩ ∨
      Binding reference download
        ⟨next, observeBindings isDecodable record catalogue event next⟩ imageUrlString := by
  obtain ⟨before, cell, known, current⟩ := binding
  by_cases after : (observeBindings isDecodable record catalogue event next).asked reference =
      some download
  · obtain ⟨cell', found, keeps⟩ := cell_kept numbered honest taken before after known
    exact .inr ⟨after, cell', found, keeps.imageUrlString.trans current⟩
  · exact .inl (.inl after)

/-- A settled binding remains settled, and a new one waits. -/
theorem settled_step (numbered : Numbered ⟨catalogue, record⟩) (honest : catalogue.Honest)
    (taken : Catalogue.step isDecodable catalogue event = .ok next)
    (settled : Settled reference download ⟨catalogue, record⟩) :
    Settled reference download ⟨next, observeBindings isDecodable record catalogue event next⟩ ∨
      Waits reference download
        ⟨next, observeBindings isDecodable record catalogue event next⟩ := by
  by_cases after : (observeBindings isDecodable record catalogue event next).asked reference =
      some download
  · by_cases before : record.asked reference = some download
    -- What has failed stays so, and a cell that shows its image keeps it.
    · rcases settled with ended | failed | ⟨cell, image, -, known, shows, -, -⟩
      · exact absurd before ended
      · refine .inl (.inr (.inl ?_))
        dsimp only [observeBindings] at failed ⊢
        split
        · exact failed
        · exact failed
        · split
          · exact failed
          · exact List.mem_append_left _ failed
        · exact failed
      · obtain ⟨cell', found, keeps⟩ := cell_kept numbered honest taken before after known
        have some : cell.backgroundImageView.image.isSome := by
          rw [show cell.backgroundImageView.image = some image from shows]
          rfl
        exact .inl (.inr (.inr (shown_of_image (honest.step taken) found (keeps.image some))))
    · -- Only a new binding asks for a download.
      refine .inr ?_
      cases event with
      | cellForRowAt row reused =>
        obtain ⟨imageUrlString, cell, cells, current, more⟩ := (binds_cellForRowAt taken).bound
        have here : reference = catalogue.boundCell reused := by
          by_contra elsewhere
          dsimp only [observeBindings] at after
          rw [Function.update_of_ne elsewhere] at after
          exact before after
        have number : download = catalogue.downloads.length := by
          dsimp only [observeBindings] at after
          rw [here, Function.update_self] at after
          exact (Option.some.inj after).symm
        refine ⟨imageUrlString, ⟨after, cell, ?_, current⟩, ?_⟩
        · rw [cells, here, Function.update_self]
        · dsimp only
          rw [more, number, here]
          exact List.mem_append_right _ (List.mem_singleton_self _)
      | discardCell reference' =>
        dsimp only [observeBindings] at after
        by_cases here : reference = reference'
        · rw [here, Function.update_self] at after
          cases after
        · rw [Function.update_of_ne here] at after
          exact absurd after before
      | downloadCompleted completed imageData =>
        dsimp only [observeBindings] at after
        split at after <;> exact absurd after before
      | insertNewFurnitures newFurnitures => exact absurd after before
      | didEndDisplaying row => exact absurd after before
      | runMain position => exact absurd after before
  · exact .inl (.inl after)

/-- The completion of the download has been called. -/
def Completes (download : DownloadRef) (event : Event isWellFormed) : Prop :=
  ∃ imageData, event = .downloadCompleted download imageData

/-- A binding waits until its own download completes. -/
theorem waits_step (numbered : Numbered ⟨catalogue, record⟩) (honest : catalogue.Honest)
    (taken : Catalogue.step isDecodable catalogue event = .ok next)
    (waits : Waits reference download ⟨catalogue, record⟩) :
    (Arrives reference download ⟨next, observeBindings isDecodable record catalogue event next⟩ ∨
        Settled reference download
          ⟨next, observeBindings isDecodable record catalogue event next⟩) ∨
      Waits reference download
          ⟨next, observeBindings isDecodable record catalogue event next⟩ ∧
        ¬ Completes download event := by
  obtain ⟨imageUrlString, binding, member⟩ := waits
  rcases binding_step numbered honest taken binding with settled | lasting
  · exact .inl (.inr settled)
  have stays : (⟨download, reference, imageUrlString⟩ : PendingDownload) ∈ next.pending →
      ¬ Completes download event →
      Waits reference download
          ⟨next, observeBindings isDecodable record catalogue event next⟩ ∧
        ¬ Completes download event :=
    fun still other => ⟨⟨imageUrlString, lasting, still⟩, other⟩
  cases event with
  | insertNewFurnitures newFurnitures =>
    simp only [Catalogue.step,
      FurnitureListTableView.insertNewFurnitures_eq honest.coherent.agree] at taken
    cases taken
    exact .inr (stays member (by simp [Completes]))
  | cellForRowAt row reused =>
    obtain ⟨other, cell, -, -, more⟩ := (binds_cellForRowAt taken).bound
    refine .inr (stays ?_ (by simp [Completes]))
    rw [more]
    exact List.mem_append_left _ member
  | didEndDisplaying row =>
    cases taken
    exact .inr (stays member (by simp [Completes]))
  | discardCell reference' =>
    obtain ⟨table, -, -, rfl⟩ := discardCell_cases taken
    exact .inr (stays member (by simp [Completes]))
  | downloadCompleted completed imageData =>
    obtain ⟨spent, pending, rfl, rfl⟩ := downloadCompleted_cases taken
    by_cases own : spent.download = download
    · -- Numbers are not shared, so this is the completion that the binding has asked for.
      have same : spent = ⟨download, reference, imageUrlString⟩ :=
        List.inj_on_of_nodup_map numbered.distinct pending member own
      subst same
      left
      obtain ⟨-, cell, known, -⟩ := binding
      -- Without data, or with data that is no image, nothing is sent.
      cases decoded : imageData.any isDecodable with
      | false =>
        refine .inr (.inr (.inl ?_))
        simp [observeBindings, decoded]
      | true =>
        refine .inl ⟨imageUrlString, imageData.getD [], lasting, ?_⟩
        cases imageData with
        | none => cases decoded
        | some data =>
          have decoded : isDecodable data = true := decoded
          have there : catalogue.table.cells reference = some cell := known
          simp only [completion, there, decoded, if_true]
          exact List.mem_append_right _ (List.mem_singleton_self _)
    -- The completion of another download leaves this one pending.
    · obtain ⟨sent, same⟩ := completion_eq isDecodable
        { catalogue with pending := catalogue.pending.erase spent } spent imageData
      refine .inr (stays ?_ ?_)
      · rw [same]
        refine (List.mem_erase_of_ne ?_).mpr member
        rintro rfl
        exact own rfl
      · rintro ⟨data, asked⟩
        cases asked
        exact own rfl
  | runMain position =>
    obtain ⟨closure, -, -, same, -⟩ := runMain_cases taken
    exact .inr (stays (same ▸ member) (by simp [Completes]))

/-- The closure with the image of the binding is run. -/
def ShowsImage (reference : CellRef) (download : DownloadRef) (catalogue : Catalogue isWellFormed)
    (event : Event isWellFormed) : Prop :=
  ∃ position closure, event = .runMain position ∧
    catalogue.mainQueue[position]? = some closure ∧ closure.cell = reference ∧
    closure.downloadedImage.download = download

/-- What is downloaded once has one URL. -/
theorem imageUrlString_unique (honest : catalogue.Honest) {closure other : ImageClosure}
    (queued : closure ∈ catalogue.mainQueue) (queued' : other ∈ catalogue.mainQueue)
    (same : closure.downloadedImage.download = other.downloadedImage.download) :
    closure.imageUrlString = other.imageUrlString := by
  obtain ⟨url, asked, captured⟩ := honest.queued closure queued
  obtain ⟨url', asked', captured'⟩ := honest.queued other queued'
  rw [DownloadedFrom, same] at asked
  cases asked.symm.trans asked'
  exact captured.symm.trans captured'

/-- An image is shown when its closure is run. -/
theorem arrives_step (numbered : Numbered ⟨catalogue, record⟩) (honest : catalogue.Honest)
    (taken : Catalogue.step isDecodable catalogue event = .ok next)
    (arrives : Arrives reference download ⟨catalogue, record⟩) :
    Settled reference download ⟨next, observeBindings isDecodable record catalogue event next⟩ ∨
      Arrives reference download
          ⟨next, observeBindings isDecodable record catalogue event next⟩ ∧
        ¬ ShowsImage reference download catalogue event := by
  obtain ⟨imageUrlString, data, binding, member⟩ := arrives
  rcases binding_step numbered honest taken binding with settled | lasting
  · exact .inl settled
  have stays : (⟨reference, imageUrlString, ⟨download, data⟩⟩ : ImageClosure) ∈ next.mainQueue →
      ¬ ShowsImage reference download catalogue event →
      Arrives reference download
          ⟨next, observeBindings isDecodable record catalogue event next⟩ ∧
        ¬ ShowsImage reference download catalogue event :=
    fun still other => ⟨⟨imageUrlString, data, lasting, still⟩, other⟩
  cases event with
  | insertNewFurnitures newFurnitures =>
    simp only [Catalogue.step,
      FurnitureListTableView.insertNewFurnitures_eq honest.coherent.agree] at taken
    cases taken
    exact .inr (stays member (by simp [ShowsImage]))
  | cellForRowAt row reused =>
    exact .inr (stays ((binds_cellForRowAt taken).queued ▸ member) (by simp [ShowsImage]))
  | didEndDisplaying row =>
    cases taken
    exact .inr (stays member (by simp [ShowsImage]))
  | discardCell reference' =>
    obtain ⟨table, -, -, rfl⟩ := discardCell_cases taken
    exact .inr (stays member (by simp [ShowsImage]))
  | downloadCompleted completed imageData =>
    obtain ⟨spent, -, -, rfl⟩ := downloadCompleted_cases taken
    obtain ⟨sent, same⟩ := completion_eq isDecodable
      { catalogue with pending := catalogue.pending.erase spent } spent imageData
    refine .inr (stays ?_ (by simp [ShowsImage]))
    rw [same]
    exact List.mem_append_left _ member
  | runMain position =>
    obtain ⟨closure, queued, erased, -, -, -, cells⟩ := runMain_cases taken
    by_cases own : closure.cell = reference ∧ closure.downloadedImage.download = download
    · -- The strings agree, so the guard of the closure lets the image pass.
      obtain ⟨-, cell, known, current⟩ := binding
      have known : catalogue.table.cells reference = some cell := known
      have string := imageUrlString_unique honest (List.mem_of_getElem? queued) member own.2
      have shows : cell.backgroundImageView.imageUrlString = some closure.imageUrlString :=
        current.trans (congrArg some string.symm)
      refine .inl (.inr (.inr ?_))
      rw [own.1, known, Option.map_some, DownloadingImageView.showDownloaded, if_pos shows] at cells
      exact shown_of_image (honest.step taken) (by rw [cells, Function.update_self]) rfl
    · refine .inr (stays ?_ ?_)
      · rw [erased, List.mem_eraseIdx_iff_getElem?]
        obtain ⟨index, found⟩ := List.mem_iff_getElem?.mp member
        refine ⟨index, ?_, found⟩
        rintro rfl
        cases queued.symm.trans found
        exact own ⟨rfl, rfl⟩
      · rintro ⟨position', closure', same, queued', here⟩
        cases same
        cases queued.symm.trans queued'
        exact own here

/-! ## Every binding is settled -/

/-- Everything that is known about bindings. -/
structure Followed (history : BindingHistory isWellFormed) : Prop where
  honest : history.state.Honest
  numbered : Numbered history
  phase : ∀ reference download, Settled reference download history ∨
    Waits reference download history ∨ Arrives reference download history

theorem Followed.step (followed : Followed ⟨catalogue, record⟩)
    (taken : Catalogue.step isDecodable catalogue event = .ok next) :
    Followed ⟨next, observeBindings isDecodable record catalogue event next⟩ := by
  obtain ⟨honest, numbered, phase⟩ := followed
  refine ⟨honest.step taken, numbered.step honest taken, fun reference download => ?_⟩
  rcases phase reference download with settled | waits | arrives
  · rcases settled_step numbered honest taken settled with still | new
    · exact .inl still
    · exact .inr (.inl new)
  · rcases waits_step numbered honest taken waits with (sent | ended) | ⟨still, -⟩
    · exact .inr (.inr sent)
    · exact .inl ended
    · exact .inr (.inl still)
  · rcases arrives_step numbered honest taken arrives with ended | ⟨still, -⟩
    · exact .inl ended
    · exact .inr (.inr still)

theorem followed_empty : Followed (⟨{}, {}⟩ : BindingHistory isWellFormed) where
  honest := honest_empty
  numbered :=
    { pending := fun _ member => nomatch member
      distinct := List.nodup_nil
      asked := fun _ _ asked => nomatch asked }
  phase _ _ := .inl (.inl (by simp))

/-- A step of the catalogue, with the record of its bindings. -/
def bindingStep (isDecodable : Data → Bool) (history : BindingHistory isWellFormed)
    (event : Event isWellFormed) : Except Halt (BindingHistory isWellFormed) :=
  observing (Catalogue.step isDecodable) (observeBindings isDecodable) history event

abbrev BindingTrace (isWellFormed : String → Bool) (isDecodable : Data → Bool) :=
  Trace (@bindingStep isWellFormed isDecodable)

/-- Every download completes somehow, and every closure is run. -/
structure Fair (trace : BindingTrace isWellFormed isDecodable) : Prop where
  completes : ∀ n pending, pending ∈ (trace.state n).state.pending →
    ∃ later, n ≤ later ∧ Completes pending.download (trace.event later)
  runs : ∀ n closure, closure ∈ (trace.state n).state.mainQueue →
    ∃ later position, n ≤ later ∧ trace.event later = .runMain position ∧
      (trace.state later).state.mainQueue[position]? = some closure

/-- On every fair trace a cell gets an image of the furniture that it has been bound to, unless the
binding is over before or its download brings no image. -/
theorem images_arrive (trace : BindingTrace isWellFormed isDecodable)
    (start : trace.state 0 = ⟨{}, {}⟩) (fair : Fair trace) (reference : CellRef)
    (download : DownloadRef) :
    trace.LeadsTo (fun history => history.record.asked reference = some download)
      (Settled reference download) := by
  have preserved : ∀ (history : BindingHistory isWellFormed) event after, Followed history →
      bindingStep isDecodable history event = .ok after → Followed after := by
    rintro ⟨catalogue, record⟩ event after followed taken
    obtain ⟨next, done, rfl⟩ := observing_cases taken
    exact followed.step done
  have initial : Followed (trace.state 0) := by
    rw [start]
    exact followed_empty
  have followed : ∀ n, Followed (trace.state n) := trace.invariant preserved initial
  have arriving : trace.LeadsTo (Arrives reference download) (Settled reference download) := by
    refine trace.leadsTo_of_helpful
      (fun history event => ShowsImage reference download history.state event) ?_ ?_
    · intro n arrives
      obtain ⟨next, done, same⟩ := observing_cases (trace.taken n)
      rw [same]
      exact arrives_step (followed n).numbered (followed n).honest done arrives
    · rintro n ⟨imageUrlString, data, -, member⟩
      obtain ⟨later, position, after, runs, queued⟩ := fair.runs n _ member
      exact ⟨later, after, position, _, runs, queued, rfl, rfl⟩
  have waiting : trace.LeadsTo (Waits reference download)
      (fun history => Arrives reference download history ∨ Settled reference download history) := by
    refine trace.leadsTo_of_helpful (fun _ event => Completes download event) ?_ ?_
    · intro n waits
      obtain ⟨next, done, same⟩ := observing_cases (trace.taken n)
      rw [same]
      exact waits_step (followed n).numbered (followed n).honest done waits
    · rintro n ⟨imageUrlString, -, member⟩
      exact fair.completes n _ member
  -- First the download completes, and then its closure is run.
  rintro n -
  rcases (followed n).phase reference download with settled | waits | arrives
  · exact ⟨n, Nat.le_refl n, settled⟩
  · obtain ⟨middle, before, sent | settled⟩ := waiting n waits
    · obtain ⟨later, after, settled⟩ := arriving middle sent
      exact ⟨later, Nat.le_trans before after, settled⟩
    · exact ⟨middle, before, settled⟩
  · exact arriving n arrives

private def armchair : Furniture fun _ => true where
  id := 7
  name := "armchair"
  description := "oak"
  imageUrl := ⟨"armchair.png", rfl⟩

/-- The armchair is listed, its row comes into view, its image is downloaded and shown, and then
there are only answers without furniture. -/
def armchairTrace : BindingTrace (fun _ => true) (fun _ => true) where
  state n :=
    let listed : Catalogue fun _ => true :=
      { table := { furnitures := [armchair], rows := [{ furniture := armchair }] } }
    let cell (image : Option UIImage) : FurnitureTableViewCell fun _ => true :=
      { viewModel := some armchair
        backgroundImageView := { imageUrlString := some "armchair.png", image := image }
        nameLabel := some "armchair"
        descriptionLabel := some "oak" }
    let empty := Function.update (fun _ => none) 0 (some (cell none))
    let filled := Function.update empty 0 (some (cell (some ⟨0, [1]⟩)))
    let showing (cells : CellRef → Option (FurnitureTableViewCell fun _ => true)) :
        Catalogue fun _ => true :=
      { table :=
          { furnitures := [armchair]
            rows := [{ furniture := armchair, cell := some 0 }]
            cells := cells
            nextCell := 1 }
        downloads := [armchair.imageUrl] }
    let record : BindingRecord := { asked := Function.update (fun _ => none) 0 (some 0) }
    match n with
    | 0 => ⟨{}, {}⟩
    | 1 => ⟨listed, {}⟩
    | 2 => ⟨{ showing empty with pending := [⟨0, 0, "armchair.png"⟩] }, record⟩
    | 3 => ⟨{ showing empty with mainQueue := [⟨0, "armchair.png", ⟨0, [1]⟩⟩] }, record⟩
    | _ => ⟨showing filled, record⟩
  event
    | 0 => .insertNewFurnitures [armchair]
    | 1 => .cellForRowAt 0 none
    | 2 => .downloadCompleted 0 (some [1])
    | 3 => .runMain 0
    | _ => .insertNewFurnitures []
  taken n :=
    match n with
    | 0 | 1 | 2 | 3 => rfl
    | _ + 4 => rfl

theorem armchairTrace_fair : Fair armchairTrace := by
  constructor
  · intro n pending member
    match n with
    | 0 | 1 | 3 | _ + 4 => cases member
    | 2 =>
      obtain rfl := List.mem_singleton.mp member
      exact ⟨2, Nat.le_refl 2, some [1], rfl⟩
  · intro n closure member
    match n with
    | 0 | 1 | 2 | _ + 4 => cases member
    | 3 =>
      obtain rfl := List.mem_singleton.mp member
      exact ⟨3, 0, Nat.le_refl 3, rfl, rfl⟩

/-- The cell of the armchair is settled, and so it shows the armchair in the end. -/
theorem images_arrive_armchair : ∃ later, 2 ≤ later ∧
    Settled 0 0 (armchairTrace.state later) :=
  images_arrive armchairTrace rfl armchairTrace_fair 0 0 2 rfl

end Catalogue

end FurnitureAR
