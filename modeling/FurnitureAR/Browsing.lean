import FurnitureAR.ImageArrival
import FurnitureAR.RefreshConfluence
import FurnitureAR.SelectedObject

/-!
# From the list into the room

A selected row opens the details of its furniture, with the image that its cell shows by then, and
from the details the AR screen is opened for the id of the furniture. All of it goes on at the same
time: fetches, cells and their downloads, details and theirs, and the AR screen.
-/
namespace FurnitureAR

open Execution

structure FurnitureDetails (isWellFormed : String → Bool) where
  furniture : Option (Furniture isWellFormed)
  image : Option UIImage

structure FurnitureDetailsViewController (isWellFormed : String → Bool) where
  selectedFurnitureDetails : Option (FurnitureDetails isWellFormed)
  imageView : DownloadingImageView := {}
  nameLabel : Option String := none
  descriptionLabel : Option String := none

namespace FurnitureDetailsViewController

variable {isWellFormed : String → Bool} (controller : FurnitureDetailsViewController isWellFormed)

def fillInfo (furniture : Furniture isWellFormed) :
    FurnitureDetailsViewController isWellFormed × Option (DownloadRequest isWellFormed) :=
  let (imageView, download) :=
    match controller.selectedFurnitureDetails.bind FurnitureDetails.image with
    -- The image of the cell saves a download.
    | some furnitureImage => ({ controller.imageView with image := some furnitureImage }, none)
    | none => controller.imageView.loadImage furniture.imageUrl.absoluteString
  ({ controller with
      imageView := imageView
      nameLabel := some furniture.name
      descriptionLabel := some furniture.description },
    download)

/-- `viewDidLoad`, with the download that it starts. -/
def configureSubviews :
    FurnitureDetailsViewController isWellFormed × Option (DownloadRequest isWellFormed) :=
  match controller.selectedFurnitureDetails.bind FurnitureDetails.furniture with
  | some furniture => controller.fillInfo furniture
  | none => (controller, none)

/-- The id that `tryWithAR` hands to the AR screen. -/
def tryWithAR : Option Int :=
  (controller.selectedFurnitureDetails.bind FurnitureDetails.furniture).map Furniture.id

end FurnitureDetailsViewController

/-! ## The application -/

abbrev DetailsRef := Nat

/-- A completion that waits for the download of a details screen, which it holds weakly. -/
structure PendingDetailsDownload where
  download : DownloadRef
  details : DetailsRef
  imageUrlString : String
  deriving DecidableEq

structure DetailsImageClosure where
  details : DetailsRef
  imageUrlString : String
  downloadedImage : UIImage

/-- The screens of the application, with all that is under way for them. -/
structure Application (isWellFormed : String → Bool) (ε : Type) where
  list : FurnitureListViewController isWellFormed ε := {}
  /-- All URLs that have ever been asked for, by cells and by details. -/
  downloads : List (URL isWellFormed) := []
  pending : List PendingDownload := []
  mainQueue : List ImageClosure := []
  /-- The details that are on the navigation stack. -/
  details : DetailsRef → Option (FurnitureDetailsViewController isWellFormed) := fun _ => none
  nextDetails : DetailsRef := 0
  detailsPending : List PendingDetailsDownload := []
  detailsMainQueue : List DetailsImageClosure := []
  /-- The AR screen that is presented, and how it was opened. -/
  presented : Option (Opening × ARViewController) := none

namespace Application

variable {isWellFormed : String → Bool} {ε : Type}

inductive Event (isWellFormed : String → Bool) (ε : Type) where
  | list (event : FurnitureListViewController.Event ε)
  | cells (event : Catalogue.Event isWellFormed)
  | didSelectRow (row : Nat)
  | detailsDownloaded (download : DownloadRef) (imageData : Option Data)
  | runDetails (position : Nat)
  | back (details : DetailsRef)
  | tryWithAR (details : DetailsRef) (opening : Opening)
  | room (event : FurnitureAR.Event)
  | dismiss

/-- The list refuses an event, or the AR screen does. -/
abbrev Halt := Catalogue.Halt ⊕ FurnitureAR.Halt

def notDelivered : Halt := .inl .notDelivered

variable (application : Application isWellFormed ε)

/-- The table view of the list, with the downloads of its cells. -/
def catalogue : Catalogue isWellFormed where
  table := application.list.furnitureListTableView
  downloads := application.downloads
  pending := application.pending
  mainQueue := application.mainQueue

def withCatalogue (catalogue : Catalogue isWellFormed) : Application isWellFormed ε :=
  { application with
    list := { application.list with furnitureListTableView := catalogue.table }
    downloads := catalogue.downloads
    pending := catalogue.pending
    mainQueue := catalogue.mainQueue }

def stepCells (isDecodable : Data → Bool) :
    Catalogue.Event isWellFormed → Except Halt (Application isWellFormed ε)
  -- Furniture is inserted by the controller of the list.
  | .insertNewFurnitures _ => .error notDelivered
  | event => ((application.catalogue.step isDecodable event).mapError Sum.inl).map
    application.withCatalogue

/-- `openDetails(of:furnitureImage:)`; pushing the details loads their view. -/
def openDetails (furniture : Furniture isWellFormed) (furnitureImage : Option UIImage) :
    Application isWellFormed ε :=
  let details := application.nextDetails
  let controller : FurnitureDetailsViewController isWellFormed :=
    { selectedFurnitureDetails := some ⟨some furniture, furnitureImage⟩ }
  let (controller, request) := controller.configureSubviews
  let application := { application with
    details := Function.update application.details details (some controller)
    nextDetails := details + 1 }
  match request with
  | none => application
  | some request =>
    { application with
      downloads := application.downloads ++ [request.imageUrl]
      detailsPending := application.detailsPending ++
        [⟨application.downloads.length, details, request.imageUrlString⟩] }

def didSelectRow (row : Nat) : Except Halt (Application isWellFormed ε) :=
  match application.list.furnitureListTableView.didSelectRowAt row with
  | none => .error notDelivered
  | some (furniture, furnitureImage) => .ok (application.openDetails furniture furnitureImage)

/-- The completion of a download for details. -/
def detailsCompletion (isDecodable : Data → Bool) (pending : PendingDetailsDownload)
    (imageData : Option Data) : Application isWellFormed ε :=
  match application.details pending.details, imageData with
  -- The details may have gone meanwhile, and the data need not be an image.
  | some _, some data =>
    if isDecodable data then
      { application with detailsMainQueue := application.detailsMainQueue ++
          [⟨pending.details, pending.imageUrlString, ⟨pending.download, data⟩⟩] }
    else application
  | _, _ => application

def detailsDownloaded (isDecodable : Data → Bool) (download : DownloadRef)
    (imageData : Option Data) : Except Halt (Application isWellFormed ε) :=
  match application.detailsPending.find? fun pending => pending.download = download with
  | none => .error notDelivered
  | some pending =>
    let application := { application with
      detailsPending := application.detailsPending.erase pending }
    .ok (application.detailsCompletion isDecodable pending imageData)

def runDetails (position : Nat) : Except Halt (Application isWellFormed ε) :=
  match application.detailsMainQueue[position]? with
  | none => .error notDelivered
  | some closure =>
    let application := { application with
      detailsMainQueue := application.detailsMainQueue.eraseIdx position }
    match application.details closure.details with
    -- Details that have been left take no image.
    | none => .ok application
    | some controller =>
      let controller := { controller with imageView :=
        controller.imageView.showDownloaded closure.imageUrlString closure.downloadedImage }
      .ok { application with
        details := Function.update application.details closure.details (some controller) }

/-- One AR screen is presented at a time. -/
def tryWithAR (details : DetailsRef) (opening : Opening) :
    Except Halt (Application isWellFormed ε) :=
  match application.presented, (application.details details).bind fun controller =>
    controller.tryWithAR with
  | none, some virtualObjectId =>
    let opening := { opening with virtualObjectId := some virtualObjectId }
    .ok { application with presented := some (opening, opening.screen) }
  | _, _ => .error notDelivered

def stepRoom (event : FurnitureAR.Event) : Except Halt (Application isWellFormed ε) :=
  match application.presented with
  | none => .error notDelivered
  | some (opening, screen) =>
    ((screen.step event).mapError Sum.inr).map fun screen =>
      { application with presented := some (opening, screen) }

def step (isDecodable : Data → Bool) (application : Application isWellFormed ε) :
    Event isWellFormed ε → Except Halt (Application isWellFormed ε)
  | .list event => ((application.list.step event).mapError Sum.inl).map fun list =>
    { application with list := list }
  | .cells event => application.stepCells isDecodable event
  | .didSelectRow row => application.didSelectRow row
  | .detailsDownloaded download imageData =>
    application.detailsDownloaded isDecodable download imageData
  | .runDetails position => application.runDetails position
  | .back details =>
    .ok { application with details := Function.update application.details details none }
  | .tryWithAR details opening => application.tryWithAR details opening
  | .room event => application.stepRoom event
  | .dismiss => .ok { application with presented := none }

/-! ## Details and their furniture -/

end Application

namespace FurnitureDetailsViewController

variable {isWellFormed : String → Bool} {downloads : List (URL isWellFormed)}
  {furniture : Furniture isWellFormed}
  {controller : FurnitureDetailsViewController isWellFormed}

/-- The details are those of the furniture, and so is the image. -/
structure Shows (downloads : List (URL isWellFormed)) (furniture : Furniture isWellFormed)
    (controller : FurnitureDetailsViewController isWellFormed) : Prop where
  id : controller.tryWithAR = some furniture.id
  name : controller.nameLabel = some furniture.name
  description : controller.descriptionLabel = some furniture.description
  image : ∀ image, controller.imageView.image = some image →
    DownloadedFrom downloads image.download furniture.imageUrl

/-- Moreover only the image of the furniture has been asked for. -/
structure Honest (downloads : List (URL isWellFormed)) (furniture : Furniture isWellFormed)
    (controller : FurnitureDetailsViewController isWellFormed) : Prop extends
    Shows downloads furniture controller where
  requested : ∀ string, controller.imageView.imageUrlString = some string →
    string = furniture.imageUrl.absoluteString

theorem Honest.append (honest : Honest downloads furniture controller)
    (more : List (URL isWellFormed)) : Honest (downloads ++ more) furniture controller where
  id := honest.id
  name := honest.name
  description := honest.description
  image image shows := (honest.image image shows).append more
  requested := honest.requested

theorem Honest.showDownloaded (honest : Honest downloads furniture controller)
    {imageUrlString : String} {image : UIImage} {url : URL isWellFormed}
    (asked : DownloadedFrom downloads image.download url)
    (captured : url.absoluteString = imageUrlString) :
    Honest downloads furniture { controller with
      imageView := controller.imageView.showDownloaded imageUrlString image } := by
  unfold DownloadingImageView.showDownloaded
  split
  next current =>
    refine ⟨⟨honest.id, honest.name, honest.description, fun shown shows => ?_⟩, honest.requested⟩
    cases shows
    exact asked.congr (captured.trans (honest.requested _ current))
  · exact honest

/-- The details come with the image that the cell has shown, or ask for it themselves. -/
theorem configureSubviews_cases (furniture : Furniture isWellFormed)
    (furnitureImage : Option UIImage)
    (belongs : ∀ image, furnitureImage = some image →
      DownloadedFrom downloads image.download furniture.imageUrl) :
    ∃ controller request,
      configureSubviews { selectedFurnitureDetails := some ⟨some furniture, furnitureImage⟩ } =
        (controller, request) ∧
      Honest downloads furniture controller ∧
      ∀ asked, request = some asked → asked.imageUrl.absoluteString = asked.imageUrlString := by
  cases furnitureImage with
  | some image =>
    refine ⟨_, none, rfl, ⟨⟨rfl, rfl, rfl, belongs⟩, ?_⟩, ?_⟩
    · intro _ asked
      cases asked
    · intro _ asked
      cases asked
  | none =>
    have loads : configureSubviews { selectedFurnitureDetails := some ⟨some furniture, none⟩ } =
        ({ selectedFurnitureDetails := some ⟨some furniture, none⟩
           imageView := { imageUrlString := some furniture.imageUrl.absoluteString }
           nameLabel := some furniture.name
           descriptionLabel := some furniture.description },
          some ⟨furniture.imageUrl, furniture.imageUrl.absoluteString⟩) := by
      simp [configureSubviews, fillInfo, DownloadingImageView.loadImage]
    refine ⟨_, _, loads, ⟨⟨rfl, rfl, rfl, ?_⟩, ?_⟩, ?_⟩
    · intro _ shows
      cases shows
    · exact fun _ asked => (Option.some.inj asked).symm
    · intro _ asked
      cases asked
      rfl

end FurnitureDetailsViewController

/-- Downloads for details come between those for cells. -/
theorem Catalogue.Honest.withDownloads {isWellFormed : String → Bool}
    {catalogue : Catalogue isWellFormed} (honest : catalogue.Honest)
    (more : List (URL isWellFormed)) :
    Catalogue.Honest { catalogue with downloads := catalogue.downloads ++ more } where
  coherent := honest.coherent
  cells known := (honest.cells known).append more
  pending pending member := by
    obtain ⟨url, asked, same⟩ := honest.pending pending member
    exact ⟨url, asked.append more, same⟩
  queued closure member := by
    obtain ⟨url, asked, same⟩ := honest.queued closure member
    exact ⟨url, asked.append more, same⟩

namespace Application

variable {isWellFormed : String → Bool} {ε : Type} {isDecodable : Data → Bool}
  {application next : Application isWellFormed ε}

/-! ## The invariant -/

/-- Whatever is on a screen comes from documents of the snapshots. -/
structure Coherent (snapshots : List (List FirestoreData))
    (application : Application isWellFormed ε) : Prop where
  catalogue : application.catalogue.Honest
  listed : ∀ furniture ∈ application.list.furnitureListTableView.furnitures,
    furniture ∈ FurnitureListViewController.furnituresOf snapshots
  waiting : ∀ closure ∈ application.list.mainQueue, ∀ furniture ∈ closure.furnitures,
    furniture ∈ FurnitureListViewController.furnituresOf snapshots
  details : ∀ reference controller, application.details reference = some controller →
    ∃ furniture ∈ application.list.furnitureListTableView.furnitures,
      controller.Honest application.downloads furniture
  detailsPending : ∀ pending ∈ application.detailsPending, ∃ url,
    DownloadedFrom application.downloads pending.download url ∧
      url.absoluteString = pending.imageUrlString
  detailsQueued : ∀ closure ∈ application.detailsMainQueue, ∃ url,
    DownloadedFrom application.downloads closure.downloadedImage.download url ∧
      url.absoluteString = closure.imageUrlString
  room : ∀ opening screen, application.presented = some (opening, screen) →
    ∃ furniture ∈ application.list.furnitureListTableView.furnitures,
      opening.virtualObjectId = some furniture.id ∧
        ARViewController.StaysWithOwn opening screen

theorem mapError_ok {α β γ : Type} {f : β → γ} {result : Except β α} {value : α}
    (done : result.mapError f = .ok value) : result = .ok value := by
  cases result with
  | error reason => cases done
  | ok other => exact congrArg Except.ok (Except.ok.inj done)

/-- A step of the list changes its furniture only by an insertion that has been waiting. -/
theorem list_cases {controller after : FurnitureListViewController isWellFormed ε}
    {event : FurnitureListViewController.Event ε}
    (agree : controller.furnitureListTableView.RowsAgree)
    (taken : controller.step event = .ok after) :
    (∃ isRefreshing, after.furnitureListTableView =
        { controller.furnitureListTableView with isRefreshing := isRefreshing }) ∨
      ∃ furnitures, .insertNewFurnitures furnitures ∈ controller.mainQueue ∧
        after.furnitureListTableView = controller.furnitureListTableView.inserting
          (controller.furnitureListTableView.filteredNewFurnitures furnitures) := by
  cases event with
  | viewDidAppear =>
    cases taken
    exact .inl ⟨_, rfl⟩
  | refreshPulled =>
    simp only [FurnitureListViewController.step, FurnitureListViewController.refreshPulled] at taken
    split at taken
    · cases taken
    · cases taken
      exact .inl ⟨true, rfl⟩
  | retrieved querySnapshot error =>
    simp only [FurnitureListViewController.step, FurnitureListViewController.retrieved] at taken
    split at taken
    · cases taken
    · cases taken
      exact .inl ⟨_, rfl⟩
  | runMain =>
    simp only [FurnitureListViewController.step, FurnitureListViewController.runMain] at taken
    split at taken
    · cases taken
    next closure rest queue =>
      cases closure with
      | stopAnimating =>
        cases taken
        exact .inl ⟨_, rfl⟩
      | showErrorMessage error =>
        cases taken
        exact .inl ⟨_, rfl⟩
      | insertNewFurnitures furnitures =>
        -- What is listed already has been filtered out.
        simp only [FurnitureListTableView.insertNewFurnitures_eq agree] at taken
        cases taken
        exact .inr ⟨furnitures, queue ▸ List.mem_cons_self, rfl⟩

/-- What waits to be inserted has been received, now or before. -/
theorem waiting_cases {controller after : FurnitureListViewController isWellFormed ε}
    {event : FurnitureListViewController.Event ε}
    (agree : controller.furnitureListTableView.RowsAgree)
    (taken : controller.step event = .ok after) {furniture : Furniture isWellFormed}
    (waits : furniture ∈
      after.mainQueue.flatMap FurnitureListViewController.MainClosure.furnitures) :
    furniture ∈ controller.mainQueue.flatMap FurnitureListViewController.MainClosure.furnitures ∨
      furniture ∈ FurnitureListViewController.furnituresOf event.snapshot.toList := by
  rcases FurnitureListViewController.step_cases taken with rfl | ⟨-, -, queue⟩
  · obtain ⟨closure, rest, queue, same, -⟩ :=
      FurnitureListViewController.runMain_cases agree taken
    rw [same] at waits
    rw [queue, List.flatMap_cons]
    exact .inl (List.mem_append_right _ waits)
  · rw [queue] at waits
    exact List.mem_append.mp waits

/-- Cells and their downloads leave the model of the list alone. -/
theorem cells_cases {catalogue after : Catalogue isWellFormed}
    {event : Catalogue.Event isWellFormed}
    (noInsertion : ∀ newFurnitures, event ≠ .insertNewFurnitures newFurnitures)
    (taken : catalogue.step isDecodable event = .ok after) :
    after.table.furnitures = catalogue.table.furnitures ∧
      ∃ more, after.downloads = catalogue.downloads ++ more := by
  cases event with
  | insertNewFurnitures newFurnitures => exact absurd rfl (noInsertion newFurnitures)
  | cellForRowAt row reused =>
    obtain ⟨-, -, ⟨url, longer⟩, furnitures⟩ := Catalogue.binds_cellForRowAt taken
    exact ⟨furnitures, [url], longer⟩
  | didEndDisplaying row =>
    cases taken
    exact ⟨rfl, [], (List.append_nil _).symm⟩
  | discardCell reference =>
    obtain ⟨table, -, furnitures, rfl⟩ := Catalogue.discardCell_cases taken
    exact ⟨furnitures, [], (List.append_nil _).symm⟩
  | downloadCompleted download imageData =>
    obtain ⟨spent, -, -, rfl⟩ := Catalogue.downloadCompleted_cases taken
    obtain ⟨sent, same⟩ := Catalogue.completion_eq isDecodable
      { catalogue with pending := catalogue.pending.erase spent } spent imageData
    rw [same]
    exact ⟨rfl, [], (List.append_nil _).symm⟩
  | runMain position =>
    obtain ⟨closure, -, -, -, downloads, furnitures, -⟩ := Catalogue.runMain_cases taken
    exact ⟨furnitures, [], by rw [downloads, List.append_nil]⟩

/-! ## One step -/

variable {snapshots : List (List FirestoreData)}

theorem Coherent.list (coherent : Coherent snapshots application)
    {event : FurnitureListViewController.Event ε}
    {list : FurnitureListViewController isWellFormed ε}
    (taken : application.list.step event = .ok list) :
    Coherent (snapshots ++ event.snapshot.toList) { application with list := list } := by
  have agree := coherent.catalogue.coherent.agree
  have more : ∀ furniture : Furniture isWellFormed,
      furniture ∈ FurnitureListViewController.furnituresOf snapshots ∨
        furniture ∈ FurnitureListViewController.furnituresOf event.snapshot.toList →
      furniture ∈
        FurnitureListViewController.furnituresOf (snapshots ++ event.snapshot.toList) := by
    intro furniture received
    rw [FurnitureListViewController.furnituresOf, List.flatMap_append]
    exact List.mem_append.mpr received
  have waiting : ∀ closure ∈ list.mainQueue, ∀ furniture ∈ closure.furnitures,
      furniture ∈ FurnitureListViewController.furnituresOf
        (snapshots ++ event.snapshot.toList) := by
    intro closure member furniture inside
    have waits := List.mem_flatMap.mpr ⟨closure, member, inside⟩
    apply more
    rcases waiting_cases agree taken waits with before | now
    · obtain ⟨closure, member, inside⟩ := List.mem_flatMap.mp before
      exact .inl (coherent.waiting closure member furniture inside)
    · exact .inr now
  -- The list only grows, so nothing that is shown loses its furniture.
  have grown : ∀ table, list.furnitureListTableView = table → table.Coherent →
      table.cells = application.list.furnitureListTableView.cells →
      (∀ furniture ∈ application.list.furnitureListTableView.furnitures,
        furniture ∈ table.furnitures) →
      (∀ furniture ∈ table.furnitures, furniture ∈
        FurnitureListViewController.furnituresOf (snapshots ++ event.snapshot.toList)) →
      Coherent (snapshots ++ event.snapshot.toList) { application with list := list } := by
    rintro table rfl tableCoherent cells kept listed
    refine ⟨?_, listed, waiting, fun reference controller shown => ?_, coherent.detailsPending,
      coherent.detailsQueued, fun opening screen shown => ?_⟩
    · exact coherent.catalogue.withTable tableCoherent fun known =>
        coherent.catalogue.cells (cells ▸ known)
    · obtain ⟨furniture, member, honest⟩ := coherent.details reference controller shown
      exact ⟨furniture, kept furniture member, honest⟩
    · obtain ⟨furniture, member, same⟩ := coherent.room opening screen shown
      exact ⟨furniture, kept furniture member, same⟩
  have tableCoherent := coherent.catalogue.coherent
  rcases list_cases agree taken with ⟨isRefreshing, same⟩ | ⟨furnitures, inserted, same⟩
  · exact grown _ same ⟨tableCoherent.agree, tableCoherent.displayed, tableCoherent.fresh⟩ rfl
      (fun _ member => member) fun furniture member => more _ (.inl (coherent.listed _ member))
  · refine grown _ same (tableCoherent.inserting _) rfl (fun furniture member => ?_) ?_
    · exact RowInsertion.mem_splice.mpr (.inl member)
    · intro furniture member
      rcases RowInsertion.mem_splice.mp member with old | new
      · exact more _ (.inl (coherent.listed _ old))
      · exact more _ (.inl (coherent.waiting _ inserted _ (List.mem_filter.mp new).1))

theorem Coherent.cells (coherent : Coherent snapshots application)
    {event : Catalogue.Event isWellFormed}
    (taken : application.stepCells isDecodable event = .ok next) : Coherent snapshots next := by
  have stepped : ∀ after, (∀ newFurnitures, event ≠ .insertNewFurnitures newFurnitures) →
      application.catalogue.step isDecodable event = .ok after →
        Coherent snapshots (application.withCatalogue after) := by
    intro after noInsertion done
    obtain ⟨furnitures, more, downloads⟩ := cells_cases noInsertion done
    have furnitures : after.table.furnitures =
        application.list.furnitureListTableView.furnitures := furnitures
    have downloads : after.downloads = application.downloads ++ more := downloads
    refine ⟨coherent.catalogue.step done, ?_, coherent.waiting, ?_, ?_, ?_, ?_⟩
    · change ∀ furniture ∈ after.table.furnitures, _
      rw [furnitures]
      exact coherent.listed
    · intro reference controller shown
      obtain ⟨furniture, member, honest⟩ := coherent.details reference controller shown
      change ∃ furniture ∈ after.table.furnitures, controller.Honest after.downloads furniture
      rw [furnitures, downloads]
      exact ⟨furniture, member, honest.append more⟩
    · intro pending member
      obtain ⟨url, asked, captured⟩ := coherent.detailsPending pending member
      change ∃ url, DownloadedFrom after.downloads _ url ∧ _
      rw [downloads]
      exact ⟨url, asked.append more, captured⟩
    · intro closure member
      obtain ⟨url, asked, captured⟩ := coherent.detailsQueued closure member
      change ∃ url, DownloadedFrom after.downloads _ url ∧ _
      rw [downloads]
      exact ⟨url, asked.append more, captured⟩
    · change ∀ opening screen, _ → ∃ furniture ∈ after.table.furnitures, _
      rw [furnitures]
      exact coherent.room
  unfold stepCells at taken
  split at taken
  · cases taken
  next noInsertion =>
    obtain ⟨after, done, rfl⟩ := map_ok taken
    exact stepped after noInsertion (mapError_ok done)

theorem Coherent.didSelectRow (coherent : Coherent snapshots application) {row : Nat}
    (taken : application.didSelectRow row = .ok next) : Coherent snapshots next := by
  unfold Application.didSelectRow at taken
  split at taken
  · cases taken
  next furniture furnitureImage reported =>
    cases taken
    have belongs : ∀ image, furnitureImage = some image →
        DownloadedFrom application.downloads image.download furniture.imageUrl := by
      rintro image rfl
      exact coherent.catalogue.imagesBelong.selected row furniture image reported
    have listed : furniture ∈ application.list.furnitureListTableView.furnitures := by
      obtain ⟨other, found, same⟩ := Option.bind_eq_some_iff.mp reported
      cases same
      exact List.mem_of_getElem? found
    obtain ⟨controller, request, loaded, honest, captured⟩ :=
      FurnitureDetailsViewController.configureSubviews_cases furniture furnitureImage belongs
    -- The new details are honest, and more downloads do no harm to the others.
    have opened : ∀ more, ∀ reference controller',
        Function.update application.details application.nextDetails (some controller) reference =
          some controller' →
        ∃ furniture ∈ application.list.furnitureListTableView.furnitures,
          controller'.Honest (application.downloads ++ more) furniture := by
      intro more reference controller' shown
      by_cases here : reference = application.nextDetails
      · rw [here, Function.update_self] at shown
        cases shown
        exact ⟨furniture, listed, honest.append more⟩
      · rw [Function.update_of_ne here] at shown
        obtain ⟨other, member, honest⟩ := coherent.details reference controller' shown
        exact ⟨other, member, honest.append more⟩
    unfold openDetails
    simp only [loaded]
    cases request with
    | none =>
      refine ⟨coherent.catalogue, coherent.listed, coherent.waiting, ?_, coherent.detailsPending,
        coherent.detailsQueued, coherent.room⟩
      have same := opened []
      rwa [List.append_nil] at same
    | some request =>
      refine ⟨coherent.catalogue.withDownloads [request.imageUrl], coherent.listed,
        coherent.waiting, opened [request.imageUrl], fun pending member => ?_,
        fun closure member => ?_, coherent.room⟩
      · rcases List.mem_append.mp member with old | new
        · obtain ⟨url, asked, same⟩ := coherent.detailsPending pending old
          exact ⟨url, asked.append _, same⟩
        · obtain rfl := List.mem_singleton.mp new
          exact ⟨request.imageUrl, List.getElem?_concat_length, captured request rfl⟩
      · obtain ⟨url, asked, same⟩ := coherent.detailsQueued closure member
        exact ⟨url, asked.append _, same⟩

theorem Coherent.detailsDownloaded (coherent : Coherent snapshots application)
    {download : DownloadRef} {imageData : Option Data}
    (taken : application.detailsDownloaded isDecodable download imageData = .ok next) :
    Coherent snapshots next := by
  unfold Application.detailsDownloaded at taken
  split at taken
  · cases taken
  next pending found =>
    cases taken
    have spent : Coherent snapshots { application with
        detailsPending := application.detailsPending.erase pending } :=
      { coherent with
        detailsPending := fun other member =>
          coherent.detailsPending other (List.mem_of_mem_erase member) }
    -- Only an image is sent on, with the URL string of its download.
    unfold detailsCompletion
    split
    · split
      · refine { spent with detailsQueued := fun closure member => ?_ }
        rcases List.mem_append.mp member with old | new
        · exact coherent.detailsQueued closure old
        · obtain rfl := List.mem_singleton.mp new
          exact coherent.detailsPending pending (List.mem_of_find?_eq_some found)
      · exact spent
    · exact spent

theorem Coherent.runDetails (coherent : Coherent snapshots application) {position : Nat}
    (taken : application.runDetails position = .ok next) : Coherent snapshots next := by
  unfold Application.runDetails at taken
  split at taken
  · cases taken
  next closure queued =>
    have rest : Coherent snapshots { application with
        detailsMainQueue := application.detailsMainQueue.eraseIdx position } :=
      { coherent with
        detailsQueued := fun other member =>
          coherent.detailsQueued other (List.mem_of_mem_eraseIdx member) }
    cases known : application.details closure.details with
    | none =>
      simp only [known] at taken
      cases taken
      exact rest
    | some controller =>
      simp only [known] at taken
      cases taken
      obtain ⟨url, asked, captured⟩ :=
        coherent.detailsQueued closure (List.mem_of_getElem? queued)
      refine { rest with details := fun reference controller' shown => ?_ }
      -- The closure concerns one of the details only.
      by_cases here : reference = closure.details
      · have shown : Function.update application.details closure.details _ reference = _ := shown
        rw [here, Function.update_self] at shown
        cases shown
        obtain ⟨furniture, member, honest⟩ := coherent.details _ controller known
        exact ⟨furniture, member, honest.showDownloaded asked captured⟩
      · exact coherent.details reference controller'
          ((Function.update_of_ne here ..).symm.trans shown)

theorem Coherent.back (coherent : Coherent snapshots application) (details : DetailsRef) :
    Coherent snapshots { application with
      details := Function.update application.details details none } := by
  refine { coherent with details := fun reference controller shown => ?_ }
  by_cases here : reference = details
  · have shown : Function.update application.details details none reference = _ := shown
    rw [here, Function.update_self] at shown
    cases shown
  · exact coherent.details reference controller ((Function.update_of_ne here ..).symm.trans shown)

/-- The AR screen is opened for the id that the details show. -/
theorem Coherent.tryWithAR (coherent : Coherent snapshots application) {details : DetailsRef}
    {opening : Opening} (taken : application.tryWithAR details opening = .ok next) :
    Coherent snapshots next := by
  unfold Application.tryWithAR at taken
  split at taken
  next absent virtualObjectId wanted =>
    cases taken
    obtain ⟨controller, shown, id⟩ := Option.bind_eq_some_iff.mp wanted
    obtain ⟨furniture, member, honest⟩ := coherent.details details controller shown
    refine { coherent with room := fun opening' screen presented => ?_ }
    cases presented
    cases id.symm.trans honest.id
    exact ⟨furniture, member, rfl, ARViewController.staysWithOwn_opening _⟩
  · cases taken

theorem Coherent.stepRoom (coherent : Coherent snapshots application)
    {event : FurnitureAR.Event} (taken : application.stepRoom event = .ok next) :
    Coherent snapshots next := by
  unfold Application.stepRoom at taken
  split at taken
  · cases taken
  next opening screen presented =>
    obtain ⟨screen', done, rfl⟩ := map_ok taken
    refine { coherent with room := fun opening' screen'' now => ?_ }
    cases now
    obtain ⟨furniture, member, id, stays⟩ := coherent.room opening screen presented
    exact ⟨furniture, member, id, stays.preserved screen event screen' (mapError_ok done)⟩

/-! ## Whole runs -/

/-- The observer keeps the snapshots that Firestore has answered with. -/
def observeSnapshots (snapshots : List (List FirestoreData)) (_ : Application isWellFormed ε)
    (event : Event isWellFormed ε) (_ : Application isWellFormed ε) : List (List FirestoreData) :=
  match event with
  | .list event => snapshots ++ event.snapshot.toList
  | _ => snapshots

theorem Coherent.step {event : Event isWellFormed ε} (coherent : Coherent snapshots application)
    (taken : application.step isDecodable event = .ok next) :
    Coherent (observeSnapshots snapshots application event next) next := by
  cases event with
  | list event =>
    obtain ⟨list, done, rfl⟩ := map_ok taken
    exact coherent.list (mapError_ok done)
  | cells event => exact coherent.cells taken
  | didSelectRow row => exact coherent.didSelectRow taken
  | detailsDownloaded download imageData => exact coherent.detailsDownloaded taken
  | runDetails position => exact coherent.runDetails taken
  | back details =>
    cases taken
    exact coherent.back details
  | tryWithAR details opening => exact coherent.tryWithAR taken
  | room event => exact coherent.stepRoom taken
  | dismiss =>
    cases taken
    exact { coherent with room := fun _ _ presented => nomatch presented }

theorem coherent_initial : Coherent [] ({} : Application isWellFormed ε) where
  catalogue := Catalogue.honest_empty
  listed _ member := nomatch member
  waiting _ member := nomatch member
  details _ _ shown := nomatch shown
  detailsPending _ member := nomatch member
  detailsQueued _ member := nomatch member
  room _ _ presented := nomatch presented

/-- The furniture is what one of the documents says. -/
def Documented (snapshots : List (List FirestoreData)) (furniture : Furniture isWellFormed) :
    Prop :=
  ∃ snapshot ∈ snapshots, ∃ document ∈ snapshot,
    Furniture.DescribedBy document furniture

abbrev History (isWellFormed : String → Bool) (ε : Type) :=
  Observed (Application isWellFormed ε) (List (List FirestoreData))

/-- All screens show furniture of the list, and the list shows documents. -/
structure Traceable (history : History isWellFormed ε) : Prop where
  listed : ∀ furniture ∈ history.state.list.furnitureListTableView.furnitures,
    Documented history.record furniture
  details : ∀ reference controller, history.state.details reference = some controller →
    ∃ furniture ∈ history.state.list.furnitureListTableView.furnitures,
      controller.Shows history.state.downloads furniture
  room : ∀ opening screen, history.state.presented = some (opening, screen) →
    ∃ furniture ∈ history.state.list.furnitureListTableView.furnitures,
      opening.virtualObjectId = some furniture.id ∧
        ∀ object, (opening.objects object).hasId furniture.id = false →
          ARViewController.LeftAlone opening screen object

theorem hasId_of_isOwn {opening : Opening} {object : ObjectRef} {id : Int}
    (opened : opening.virtualObjectId = some id) (own : opening.IsOwn object) :
    (opening.objects object).hasId id = true := by
  obtain ⟨objectId, wanted, found⟩ := Option.bind_eq_some_iff.mp own
  cases opened.symm.trans wanted
  unfold VirtualObject.byId at found
  have matches' := List.find?_some found
  exact matches'

theorem Coherent.traceable (coherent : Coherent snapshots application) :
    Traceable ⟨application, snapshots⟩ where
  listed furniture member := by
    obtain ⟨snapshot, received, inside⟩ := List.mem_flatMap.mp (coherent.listed furniture member)
    obtain ⟨document, member, accepted⟩ := List.mem_filterMap.mp inside
    exact ⟨snapshot, received, document, member,
      Furniture.ofFirestoreData_eq_some_iff.mp accepted⟩
  details reference controller shown := by
    obtain ⟨furniture, member, honest⟩ := coherent.details reference controller shown
    exact ⟨furniture, member, honest.toShows⟩
  room opening screen presented := by
    obtain ⟨furniture, member, id, stays⟩ := coherent.room opening screen presented
    refine ⟨furniture, member, id, fun object other => stays.leftAlone fun own => ?_⟩
    cases other.symm.trans (hasId_of_isOwn id own)

/-- In every run, whatever the details show is one furniture that a document has described, with
nothing but its own image, and whatever the AR screen works on is a model for the id of one. -/
theorem screens_traceable (isDecodable : Data → Bool) (events : List (Event isWellFormed ε)) :
    Always (observing (step isDecodable) observeSnapshots) Traceable ⟨{}, []⟩ events := by
  have coherent : Always (observing (step isDecodable) observeSnapshots)
      (fun history => Coherent history.record history.state)
      ⟨({} : Application isWellFormed ε), []⟩ events :=
    always_observing_of_invariant (fun _ _ _ _ coherent taken => coherent.step taken)
      coherent_initial events
  exact coherent.mono fun _ coherent => coherent.traceable

end Application

end FurnitureAR
