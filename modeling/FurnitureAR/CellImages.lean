import FurnitureAR.Catalogue
import FurnitureAR.ListRefinement

/-!
# Images belong to their furniture

Cells are bound again and again while downloads are under way. The completion of a download
compares the URL that it captured with the one that its image view asked for last, and that
is the one of the furniture the cell is bound to.
-/
namespace FurnitureAR

open Execution

variable {isWellFormed : String → Bool}

/-! ## Rows and their cells -/

namespace FurnitureListTableView

variable {table : FurnitureListTableView isWellFormed}

/-- Displayed cells are bound to the furniture of their rows. -/
structure Coherent (table : FurnitureListTableView isWellFormed) : Prop where
  agree : table.RowsAgree
  displayed : ∀ {shown reference}, shown ∈ table.rows → shown.cell = some reference →
    ∃ cell, table.cells reference = some cell ∧ cell.viewModel = some shown.furniture
  fresh : ∀ {reference cell}, table.cells reference = some cell → reference < table.nextCell

theorem not_isDisplayed_iff {reference : CellRef} :
    table.isDisplayed reference = false ↔ ∀ shown ∈ table.rows, shown.cell ≠ some reference := by
  simp [isDisplayed]

theorem Coherent.inserting (coherent : table.Coherent)
    (newFurnitures : List (Furniture isWellFormed)) : (table.inserting newFurnitures).Coherent where
  agree := coherent.agree.inserting newFurnitures
  displayed {shown reference} member shows := by
    rw [FurnitureListTableView.inserting, RowInsertion.mem_splice] at member
    rcases member with old | new
    · exact coherent.displayed old shows
    · -- New rows have no cell yet.
      obtain ⟨furniture, -, rfl⟩ := List.mem_map.mp new
      cases shows
  fresh := coherent.fresh

/-- A cell that is dequeued is displayed nowhere. -/
theorem Coherent.dequeued (coherent : table.Coherent) {reused : Option CellRef}
    {reference : CellRef} {cell : FurnitureTableViewCell isWellFormed}
    {next : FurnitureListTableView isWellFormed}
    (dequeued : table.dequeueReusableCell reused = some (reference, cell, next)) :
    next.Coherent ∧ next.isDisplayed reference = false ∧ reference < next.nextCell ∧
      next.rows = table.rows ∧ next.cells = table.cells := by
  unfold dequeueReusableCell at dequeued
  split at dequeued
  · cases dequeued
    refine ⟨⟨coherent.agree, coherent.displayed, fun known => ?_⟩, ?_, Nat.lt_succ_self _, rfl, rfl⟩
    · exact Nat.lt_succ_of_lt (coherent.fresh known)
    -- A new cell has a number that no displayed cell has.
    · rw [not_isDisplayed_iff]
      intro shown member shows
      obtain ⟨cell, known, -⟩ := coherent.displayed member shows
      exact absurd (coherent.fresh known) (Nat.lt_irrefl _)
  · next reference' =>
    split at dequeued
    · cases dequeued
    · next hidden =>
      cases known : table.cells reference' with
      | none => simp [known] at dequeued
      | some old =>
        simp only [known, Option.map_some, Option.some.injEq, Prod.mk.injEq] at dequeued
        obtain ⟨rfl, rfl, rfl⟩ := dequeued
        exact ⟨coherent, by simpa using hidden, coherent.fresh known, rfl, rfl⟩

theorem Coherent.binding (coherent : table.Coherent) {row : Nat} {reference : CellRef}
    {furniture : Furniture isWellFormed} {cell : FurnitureTableViewCell isWellFormed}
    (hidden : table.isDisplayed reference = false) (numbered : reference < table.nextCell)
    (listed : table.furnitures[row]? = some furniture)
    (bound : cell.viewModel = some furniture) :
    Coherent { table with
      cells := Function.update table.cells reference (some cell)
      rows := table.rows.set row { furniture, cell := some reference } } where
  agree := by
    have same := coherent.agree
    rw [RowsAgree] at same ⊢
    rw [List.map_set, same]
    obtain ⟨inside, rfl⟩ := List.getElem?_eq_some_iff.mp listed
    -- The row is bound to the furniture that it had.
    exact List.set_getElem_self inside
  displayed {shown other} member shows := by
    rcases List.mem_or_eq_of_mem_set member with old | rfl
    · have distinct : other ≠ reference := by
        rintro rfl
        exact not_isDisplayed_iff.mp hidden shown old shows
      obtain ⟨cell, found, bound⟩ := coherent.displayed old shows
      exact ⟨cell, (Function.update_of_ne distinct ..).trans found, bound⟩
    · cases shows
      exact ⟨cell, Function.update_self .., bound⟩
  fresh {other known} member := by
    by_cases same : other = reference
    · exact lt_of_eq_of_lt same numbered
    · exact coherent.fresh ((Function.update_of_ne same ..).symm.trans member)

theorem Coherent.didEndDisplaying (coherent : table.Coherent) (row : Nat) :
    (table.didEndDisplaying row).Coherent where
  agree := by
    have same := coherent.agree
    rw [RowsAgree] at same ⊢
    rw [← show _ = (table.didEndDisplaying row).furnitures from same]
    refine List.ext_getElem? fun index => ?_
    rw [FurnitureListTableView.didEndDisplaying, List.getElem?_map, List.getElem?_map,
      List.getElem?_modify]
    cases table.rows[index]? with
    | none => rfl
    | some shown => by_cases here : row = index <;> simp [here]
  displayed {shown reference} member shows := by
    obtain ⟨index, found⟩ := List.mem_iff_getElem?.mp member
    rw [FurnitureListTableView.didEndDisplaying, List.getElem?_modify] at found
    obtain ⟨old, listed, rfl⟩ := Option.map_eq_some_iff.mp found
    split at shows
    · cases shows
    · next other =>
      rw [if_neg other]
      exact coherent.displayed (List.mem_of_getElem? listed) shows
  fresh := coherent.fresh

theorem Coherent.discarded (coherent : table.Coherent) {reference : CellRef}
    (hidden : table.isDisplayed reference = false) :
    Coherent { table with cells := Function.update table.cells reference none } where
  agree := coherent.agree
  displayed {shown other} member shows := by
    have distinct : other ≠ reference := by
      rintro rfl
      exact not_isDisplayed_iff.mp hidden shown member shows
    obtain ⟨cell, found, bound⟩ := coherent.displayed member shows
    exact ⟨cell, (Function.update_of_ne distinct ..).trans found, bound⟩
  fresh {other known} member := by
    by_cases same : other = reference
    · subst same
      simp at member
    · exact coherent.fresh ((Function.update_of_ne same ..).symm.trans member)

/-- What a cell shows is no business of the rows. -/
theorem Coherent.showing (coherent : table.Coherent) {reference : CellRef}
    {cell : FurnitureTableViewCell isWellFormed} (known : table.cells reference = some cell)
    (imageView : DownloadingImageView) :
    Coherent { table with
      cells := Function.update table.cells reference
        (some { cell with backgroundImageView := imageView }) } where
  agree := coherent.agree
  displayed {shown other} member shows := by
    obtain ⟨old, found, bound⟩ := coherent.displayed member shows
    by_cases same : other = reference
    · subst same
      cases known.symm.trans found
      exact ⟨_, Function.update_self .., bound⟩
    · exact ⟨old, (Function.update_of_ne same ..).trans found, bound⟩
  fresh {other _} member := by
    by_cases same : other = reference
    · exact lt_of_eq_of_lt same (coherent.fresh known)
    · exact coherent.fresh ((Function.update_of_ne same ..).symm.trans member)

/-- A selection reports the furniture of its row, and the image of a cell bound to it. -/
theorem Coherent.selected (coherent : table.Coherent) {row : Nat}
    {furniture : Furniture isWellFormed} {image : UIImage}
    (reported : table.didSelectRowAt row = some (furniture, some image)) :
    ∃ reference cell, table.cells reference = some cell ∧ cell.viewModel = some furniture ∧
      cell.furnitureImage = some image := by
  cases listed : table.rows[row]? with
  | none =>
    simp [FurnitureListTableView.didSelectRowAt, coherent.agree.getElem?, listed] at reported
  | some shown =>
    rw [coherent.agree.didSelectRowAt listed, Option.some.injEq, Prod.mk.injEq] at reported
    obtain ⟨rfl, shows⟩ := reported
    obtain ⟨cell, found, shows⟩ := Option.bind_eq_some_iff.mp shows
    have found : shown.cell.bind table.cells = some cell := by
      rw [cellForRow, listed] at found
      exact found
    obtain ⟨reference, displays, found⟩ := Option.bind_eq_some_iff.mp found
    -- The cell of the row, found once for its image and once for its furniture.
    obtain ⟨other, known, bound⟩ :=
      coherent.displayed (List.mem_of_getElem? listed) displays
    cases known.symm.trans found
    exact ⟨reference, cell, known, bound, shows⟩

end FurnitureListTableView

/-! ## Cells and their images -/

/-- Downloads are numbered by their place among all the URLs that have been asked for. -/
def DownloadedFrom (downloads : List (URL isWellFormed)) (download : DownloadRef)
    (url : URL isWellFormed) : Prop :=
  downloads[download]? = some url

theorem DownloadedFrom.append {downloads : List (URL isWellFormed)} {download : DownloadRef}
    {url : URL isWellFormed} (asked : DownloadedFrom downloads download url)
    (more : List (URL isWellFormed)) : DownloadedFrom (downloads ++ more) download url := by
  obtain ⟨inside, -⟩ := List.getElem?_eq_some_iff.mp asked
  rw [DownloadedFrom, List.getElem?_append_left inside]
  exact asked

/-- URLs that were asked for with one string are one URL. -/
theorem DownloadedFrom.congr {downloads : List (URL isWellFormed)} {download : DownloadRef}
    {url other : URL isWellFormed} (asked : DownloadedFrom downloads download url)
    (same : url.absoluteString = other.absoluteString) :
    DownloadedFrom downloads download other := by
  cases url
  cases other
  cases same
  exact asked

namespace FurnitureTableViewCell

/-- The image of a cell is one of the furniture that it is bound to. -/
structure Honest (downloads : List (URL isWellFormed))
    (cell : FurnitureTableViewCell isWellFormed) : Prop where
  requested : cell.backgroundImageView.imageUrlString =
    cell.viewModel.map fun furniture => furniture.imageUrl.absoluteString
  image : ∀ image, cell.furnitureImage = some image → ∃ furniture,
    cell.viewModel = some furniture ∧
      DownloadedFrom downloads image.download furniture.imageUrl

variable {downloads : List (URL isWellFormed)} {cell : FurnitureTableViewCell isWellFormed}

theorem Honest.append (honest : cell.Honest downloads) (more : List (URL isWellFormed)) :
    cell.Honest (downloads ++ more) where
  requested := honest.requested
  image image shown := by
    obtain ⟨furniture, bound, asked⟩ := honest.image image shown
    exact ⟨furniture, bound, asked.append more⟩

theorem honest_setViewModel (furniture : Furniture isWellFormed) :
    (cell.setViewModel (some furniture)).1.Honest downloads := by
  rw [setViewModel_some]
  exact ⟨rfl, fun image shown => nomatch shown⟩

/-- The guard of the closure: an image is shown only if it was asked for with the string that
the image view asked for last. -/
theorem Honest.showDownloaded (honest : cell.Honest downloads) {imageUrlString : String}
    {image : UIImage} {url : URL isWellFormed}
    (asked : DownloadedFrom downloads image.download url)
    (captured : url.absoluteString = imageUrlString) :
    Honest downloads { cell with
      backgroundImageView := cell.backgroundImageView.showDownloaded imageUrlString image } := by
  unfold DownloadingImageView.showDownloaded
  split
  · next current =>
    refine ⟨honest.requested, fun shown shows => ?_⟩
    obtain ⟨furniture, bound, same⟩ :=
      Option.map_eq_some_iff.mp (honest.requested.symm.trans current)
    -- Equal strings mean equal URLs, so the download need not be the last one that was asked for.
    cases shows
    exact ⟨furniture, bound, asked.congr (captured.trans same.symm)⟩
  · exact honest

/-- A cell may be replaced by an honest one, or given up. -/
theorem honest_update {cells : CellRef → Option (FurnitureTableViewCell isWellFormed)}
    (honest : ∀ {reference cell}, cells reference = some cell → Honest downloads cell)
    {reference : CellRef} {value : Option (FurnitureTableViewCell isWellFormed)}
    (own : ∀ cell, value = some cell → Honest downloads cell) {other : CellRef}
    {cell : FurnitureTableViewCell isWellFormed}
    (found : Function.update cells reference value other = some cell) :
    Honest downloads cell := by
  by_cases same : other = reference
  · subst same
    rw [Function.update_self] at found
    exact own cell found
  · rw [Function.update_of_ne same] at found
    exact honest found

end FurnitureTableViewCell

/-! ## The catalogue -/

namespace Catalogue

open FurnitureListTableView (Coherent)
open FurnitureTableViewCell (honest_update)

variable {catalogue next : Catalogue isWellFormed} {isDecodable : Data → Bool}

/-- Whatever is under way carries the string of the URL that it was asked for. -/
structure Honest (catalogue : Catalogue isWellFormed) : Prop where
  coherent : catalogue.table.Coherent
  cells : ∀ {reference cell}, catalogue.table.cells reference = some cell →
    cell.Honest catalogue.downloads
  pending : ∀ pending ∈ catalogue.pending, ∃ url,
    DownloadedFrom catalogue.downloads pending.download url ∧
      url.absoluteString = pending.imageUrlString
  queued : ∀ closure ∈ catalogue.mainQueue, ∃ url,
    DownloadedFrom catalogue.downloads closure.downloadedImage.download url ∧
      url.absoluteString = closure.imageUrlString

/-- Images are nil or belong to the furniture that their cell is bound to. Selecting a row reports
the furniture of that row, and with it no image or one that belongs to it. -/
structure ImagesBelong (catalogue : Catalogue isWellFormed) : Prop where
  shown : ∀ reference cell image, catalogue.table.cells reference = some cell →
    cell.furnitureImage = some image → ∃ furniture, cell.viewModel = some furniture ∧
      DownloadedFrom catalogue.downloads image.download furniture.imageUrl
  handedOver : ∀ row shown, catalogue.table.rows[row]? = some shown →
    ∃ image, catalogue.table.didSelectRowAt row = some (shown.furniture, image)
  selected : ∀ row furniture image,
    catalogue.table.didSelectRowAt row = some (furniture, some image) →
      DownloadedFrom catalogue.downloads image.download furniture.imageUrl

theorem Honest.imagesBelong (honest : catalogue.Honest) : catalogue.ImagesBelong where
  shown reference cell image known shows := (honest.cells known).image image shows
  handedOver row shown listed := ⟨_, honest.coherent.agree.didSelectRowAt listed⟩
  selected row furniture image reported := by
    obtain ⟨reference, cell, known, bound, shows⟩ := honest.coherent.selected reported
    obtain ⟨other, also, asked⟩ := (honest.cells known).image image shows
    cases bound.symm.trans also
    exact asked

theorem honest_empty : ({} : Catalogue isWellFormed).Honest where
  coherent :=
    { agree := rfl
      displayed := fun member => nomatch member
      fresh := fun known => nomatch known }
  cells known := nomatch known
  pending _ member := nomatch member
  queued _ member := nomatch member

/-- The rows and cells may change while the downloads do not. -/
theorem Honest.withTable (honest : catalogue.Honest)
    {table : FurnitureListTableView isWellFormed} (coherent : table.Coherent)
    (cells : ∀ {reference cell}, table.cells reference = some cell →
      cell.Honest catalogue.downloads) :
    Honest { catalogue with table := table } :=
  ⟨coherent, cells, honest.pending, honest.queued⟩

theorem Honest.downloadImageData (honest : catalogue.Honest) (reference : CellRef)
    {request : DownloadRequest isWellFormed}
    (captured : request.imageUrl.absoluteString = request.imageUrlString) :
    (catalogue.downloadImageData reference request).Honest where
  coherent := honest.coherent
  cells known := (honest.cells known).append _
  pending pending member := by
    rcases List.mem_append.mp member with old | new
    · obtain ⟨url, asked, same⟩ := honest.pending pending old
      exact ⟨url, asked.append _, same⟩
    · obtain rfl := List.mem_singleton.mp new
      exact ⟨request.imageUrl, List.getElem?_concat_length, captured⟩
  queued closure member := by
    obtain ⟨url, asked, same⟩ := honest.queued closure member
    exact ⟨url, asked.append _, same⟩

theorem Honest.cellForRowAt (honest : catalogue.Honest) {row : Nat} {reused : Option CellRef}
    (taken : catalogue.cellForRowAt row reused = .ok next) : next.Honest := by
  unfold Catalogue.cellForRowAt at taken
  split at taken
  · next shown reference cell table listed dequeued =>
    obtain ⟨coherent, hidden, numbered, -, cells⟩ := honest.coherent.dequeued dequeued
    rw [FurnitureListTableView.cellForRowAt] at taken
    cases found : table.furnitures[row]? with
    | none => rw [found] at taken; cases taken
    | some furniture =>
      rw [found] at taken
      -- Binding takes the old image away, and captures the string of the new furniture.
      have own : (cell.setViewModel (some furniture)).1.Honest catalogue.downloads :=
        FurnitureTableViewCell.honest_setViewModel furniture
      rw [FurnitureTableViewCell.setViewModel_some] at own
      simp only [FurnitureTableViewCell.setViewModel_some] at taken
      cases taken
      refine Honest.downloadImageData (honest.withTable ?_ ?_) reference rfl
      · exact coherent.binding hidden numbered found rfl
      · rw [cells]
        exact honest_update honest.cells fun _ same => Option.some.inj same ▸ own
  · cases taken

theorem Honest.discardCell (honest : catalogue.Honest) {reference : CellRef}
    (taken : catalogue.discardCell reference = .ok next) : next.Honest := by
  unfold Catalogue.discardCell FurnitureListTableView.discardCell at taken
  cases hidden : catalogue.table.isDisplayed reference with
  | true => simp [hidden] at taken
  | false =>
    simp only [hidden] at taken
    cases taken
    exact honest.withTable (honest.coherent.discarded hidden)
      (honest_update honest.cells fun _ given => by cases given)

theorem Honest.completed (honest : catalogue.Honest) {download : DownloadRef}
    {imageData : Option Data}
    (taken : catalogue.downloadCompleted isDecodable download imageData = .ok next) :
    next.Honest := by
  unfold downloadCompleted at taken
  split at taken
  · cases taken
  · next pending found =>
    cases taken
    have spent : Honest { catalogue with pending := catalogue.pending.erase pending } :=
      ⟨honest.coherent, honest.cells,
        fun other member => honest.pending other (List.mem_of_mem_erase member), honest.queued⟩
    -- Only an image that is decoded for a cell that is still there gets to the main queue.
    unfold completion
    split
    · split
      · refine ⟨spent.coherent, spent.cells, spent.pending, fun closure member => ?_⟩
        rcases List.mem_append.mp member with old | new
        · exact spent.queued closure old
        · obtain rfl := List.mem_singleton.mp new
          exact honest.pending pending (List.mem_of_find?_eq_some found)
      · exact spent
    · exact spent

theorem Honest.runMain (honest : catalogue.Honest) {position : Nat}
    (taken : catalogue.runMain position = .ok next) : next.Honest := by
  unfold Catalogue.runMain at taken
  split at taken
  · cases taken
  · next closure queued =>
    have rest : Honest { catalogue with mainQueue := catalogue.mainQueue.eraseIdx position } :=
      ⟨honest.coherent, honest.cells, honest.pending,
        fun other member => honest.queued other (List.mem_of_mem_eraseIdx member)⟩
    cases known : catalogue.table.cells closure.cell with
    -- The image view has been released since.
    | none =>
      simp only [known] at taken
      cases taken
      exact rest
    | some cell =>
      simp only [known] at taken
      cases taken
      obtain ⟨url, asked, captured⟩ := honest.queued closure (List.mem_of_getElem? queued)
      have own := (honest.cells known).showDownloaded asked captured
      exact rest.withTable (honest.coherent.showing known _)
        (honest_update honest.cells fun _ same => Option.some.inj same ▸ own)

theorem Honest.step {event : Event isWellFormed} (honest : catalogue.Honest)
    (taken : step isDecodable catalogue event = .ok next) : next.Honest := by
  cases event with
  | insertNewFurnitures newFurnitures =>
    simp only [Catalogue.step,
      FurnitureListTableView.insertNewFurnitures_eq honest.coherent.agree] at taken
    cases taken
    exact honest.withTable (honest.coherent.inserting _) honest.cells
  | cellForRowAt row reused => exact honest.cellForRowAt taken
  | didEndDisplaying row =>
    cases taken
    exact honest.withTable (honest.coherent.didEndDisplaying row) honest.cells
  | discardCell reference => exact honest.discardCell taken
  | downloadCompleted download imageData => exact honest.completed taken
  | runMain position => exact honest.runMain taken

/-- In every run of the catalogue, images belong to their furniture. -/
theorem images_belong (isDecodable : Data → Bool) (events : List (Event isWellFormed)) :
    Always (step isDecodable) ImagesBelong {} events := by
  have honest : Always (Catalogue.step isDecodable) Honest {} events :=
    always_of_invariant (fun _ _ _ honest taken => honest.step taken) honest_empty events
  exact honest.mono fun _ honest => honest.imagesBelong

private def furniture (id : Int) (name : String) : Furniture fun _ => true :=
  { id, name, description := "oak", imageUrl := ⟨name ++ ".png", rfl⟩ }

/-- A cell is used for the chair, then for the lamp, and is still bound to the lamp when the
image of the chair arrives. -/
example :
    (run (step fun _ => true) {}
      [.insertNewFurnitures [furniture 1 "chair", furniture 2 "lamp"],
        .cellForRowAt 0 none, .didEndDisplaying 0, .cellForRowAt 1 (some 0),
        .downloadCompleted 1 (some [1]), .downloadCompleted 0 (some [0]), .runMain 0,
        .runMain 0]).toOption.bind (fun catalogue => catalogue.table.didSelectRowAt 1) =
      some (furniture 2 "lamp", some ⟨1, [1]⟩) := by
  decide

end Catalogue

end FurnitureAR
