import FurnitureAR.FurnitureListTableView

/-!
# The catalogue at work

The table view together with the downloads that its cells have asked for. Completions run in
the background and send their images to the main queue. Nothing is assumed about the order in
which downloads complete, nor about the order in which images reach the main queue.
-/
namespace FurnitureAR

/-- A completion that waits for its download. It holds its image view weakly. -/
structure PendingDownload where
  download : DownloadRef
  cell : CellRef
  imageUrlString : String
  deriving DecidableEq

/-- A closure on the main queue that holds a downloaded image. -/
structure ImageClosure where
  cell : CellRef
  imageUrlString : String
  downloadedImage : UIImage
  deriving DecidableEq

structure Catalogue (isWellFormed : String → Bool) where
  table : FurnitureListTableView isWellFormed := {}
  /-- All URLs that have ever been asked for, by download. -/
  downloads : List (URL isWellFormed) := []
  pending : List PendingDownload := []
  mainQueue : List ImageClosure := []

namespace Catalogue

inductive Event (isWellFormed : String → Bool) where
  | insertNewFurnitures (newFurnitures : List (Furniture isWellFormed))
  | cellForRowAt (row : Nat) (reused : Option CellRef)
  | didEndDisplaying (row : Nat)
  | discardCell (reference : CellRef)
  | downloadCompleted (download : DownloadRef) (imageData : Option Data)
  | runMain (position : Nat)

inductive Halt where
  /-- The program stops on an error of its own. -/
  | crashed (error : ListError)
  /-- The event cannot be delivered in this state. -/
  | notDelivered
  deriving DecidableEq

variable {isWellFormed : String → Bool} (catalogue : Catalogue isWellFormed)

def orCrash {α : Type} : Except ListError α → Except Halt α
  | .ok value => .ok value
  | .error error => .error (.crashed error)

/-- `ImageDownloader.downloadImageData`, for the image view of a cell. -/
def downloadImageData (reference : CellRef) (request : DownloadRequest isWellFormed) :
    Catalogue isWellFormed :=
  { catalogue with
    downloads := catalogue.downloads ++ [request.imageUrl]
    pending := catalogue.pending ++
      [⟨catalogue.downloads.length, reference, request.imageUrlString⟩] }

/-- UIKit asks for the cell of a row that it has. -/
def cellForRowAt (row : Nat) (reused : Option CellRef) :
    Except Halt (Catalogue isWellFormed) :=
  match catalogue.table.rows[row]?, catalogue.table.dequeueReusableCell reused with
  | some _, some (reference, cell, table) => do
    let (table, request) ← orCrash (table.cellForRowAt row reference cell)
    let catalogue := { catalogue with table := table }
    match request with
    | none => .ok catalogue
    | some request => .ok (catalogue.downloadImageData reference request)
  | _, _ => .error .notDelivered

def discardCell (reference : CellRef) : Except Halt (Catalogue isWellFormed) :=
  match catalogue.table.discardCell reference with
  | none => .error .notDelivered
  | some table => .ok { catalogue with table := table }

/-- The completion of a download. Data that is missing or makes no image is dropped, and so is
an image whose view has gone. -/
def completion (isDecodable : Data → Bool) (pending : PendingDownload) (imageData : Option Data) :
    Catalogue isWellFormed :=
  -- The completion captures `self` weakly.
  match catalogue.table.cells pending.cell, imageData with
  | some _, some data =>
    if isDecodable data then
      { catalogue with mainQueue := catalogue.mainQueue ++
          [⟨pending.cell, pending.imageUrlString, ⟨pending.download, data⟩⟩] }
    else catalogue
  | _, _ => catalogue

def downloadCompleted (isDecodable : Data → Bool) (download : DownloadRef)
    (imageData : Option Data) : Except Halt (Catalogue isWellFormed) :=
  match catalogue.pending.find? fun pending => pending.download = download with
  | none => .error .notDelivered
  | some pending =>
    -- Every completion runs once.
    let catalogue := { catalogue with pending := catalogue.pending.erase pending }
    .ok (catalogue.completion isDecodable pending imageData)

/-- Run one closure of the main queue. The image view may have outlived its cell. -/
def runMain (position : Nat) : Except Halt (Catalogue isWellFormed) :=
  match catalogue.mainQueue[position]? with
  | none => .error .notDelivered
  | some closure =>
    let catalogue := { catalogue with mainQueue := catalogue.mainQueue.eraseIdx position }
    match catalogue.table.cells closure.cell with
    | none => .ok catalogue
    | some cell =>
      let cell := { cell with backgroundImageView :=
        cell.backgroundImageView.showDownloaded closure.imageUrlString closure.downloadedImage }
      .ok { catalogue with table := { catalogue.table with
        cells := Function.update catalogue.table.cells closure.cell (some cell) } }

def step (isDecodable : Data → Bool) (catalogue : Catalogue isWellFormed) :
    Event isWellFormed → Except Halt (Catalogue isWellFormed)
  | .insertNewFurnitures newFurnitures => do
    let table ← orCrash (catalogue.table.insertNewFurnitures newFurnitures)
    .ok { catalogue with table := table }
  | .cellForRowAt row reused => catalogue.cellForRowAt row reused
  | .didEndDisplaying row =>
    .ok { catalogue with table := catalogue.table.didEndDisplaying row }
  | .discardCell reference => catalogue.discardCell reference
  | .downloadCompleted download imageData =>
    catalogue.downloadCompleted isDecodable download imageData
  | .runMain position => catalogue.runMain position

end Catalogue

end FurnitureAR
