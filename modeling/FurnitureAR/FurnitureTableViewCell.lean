import FurnitureAR.Furniture

/-!
# Cells and their images

A cell shows one furniture at a time. Its image view asks for a download at each binding,
and remembers only the URL it asked for last.
-/
namespace FurnitureAR

abbrev Data := List UInt8

/-- Downloads are numbered in the order in which they are asked for. -/
abbrev DownloadRef := Nat

/-- Every download that is decoded makes an image of its own. -/
structure UIImage where
  download : DownloadRef
  data : Data
  deriving DecidableEq

structure DownloadingImageView where
  imageUrlString : Option String := none
  image : Option UIImage := none
  deriving DecidableEq

/-- A download that is asked for, with the string that its completion captures. -/
structure DownloadRequest (isWellFormed : String → Bool) where
  imageUrl : URL isWellFormed
  imageUrlString : String
  deriving DecidableEq

namespace DownloadingImageView

variable {isWellFormed : String → Bool}

/-- `loadImage(from:placeholderImage:)`, and the download that it starts. -/
def loadImage (imageView : DownloadingImageView) (imageUrlString : String)
    (placeholderImage : Option UIImage := none) :
    DownloadingImageView × Option (DownloadRequest isWellFormed) :=
  match URL.ofString imageUrlString with
  -- The image of an earlier binding is left alone here, but URLs of furniture are well-formed.
  | none => (imageView, none)
  | some imageUrl =>
    ({ imageView with imageUrlString := some imageUrlString, image := placeholderImage },
      some { imageUrl, imageUrlString })

/-- The closure that `loadImage` sends to the main queue. -/
def showDownloaded (imageView : DownloadingImageView) (imageUrlString : String)
    (downloadedImage : UIImage) : DownloadingImageView :=
  -- The strings are compared, not the downloads.
  if imageView.imageUrlString = some imageUrlString then
    { imageView with image := some downloadedImage }
  else imageView

end DownloadingImageView

structure FurnitureTableViewCell (isWellFormed : String → Bool) where
  viewModel : Option (Furniture isWellFormed) := none
  backgroundImageView : DownloadingImageView := {}
  nameLabel : Option String := none
  descriptionLabel : Option String := none
  deriving DecidableEq

namespace FurnitureTableViewCell

variable {isWellFormed : String → Bool}

def furnitureImage (cell : FurnitureTableViewCell isWellFormed) : Option UIImage :=
  cell.backgroundImageView.image

def configureCell (cell : FurnitureTableViewCell isWellFormed)
    (furniture : Furniture isWellFormed) :
    FurnitureTableViewCell isWellFormed × Option (DownloadRequest isWellFormed) :=
  let (imageView, download) :=
    cell.backgroundImageView.loadImage furniture.imageUrl.absoluteString
  ({ cell with
      backgroundImageView := imageView
      nameLabel := some furniture.name
      descriptionLabel := some furniture.description },
    download)

/-- Assign `viewModel`, which configures the cell. -/
def setViewModel (cell : FurnitureTableViewCell isWellFormed)
    (viewModel : Option (Furniture isWellFormed)) :
    FurnitureTableViewCell isWellFormed × Option (DownloadRequest isWellFormed) :=
  let cell := { cell with viewModel := viewModel }
  match viewModel with
  | none => (cell, none)
  | some model => cell.configureCell model

/-- Binding a cell starts one download, of the image of what it is bound to. -/
theorem setViewModel_some (cell : FurnitureTableViewCell isWellFormed)
    (furniture : Furniture isWellFormed) :
    cell.setViewModel (some furniture) =
      ({ viewModel := some furniture
         backgroundImageView :=
          { imageUrlString := some furniture.imageUrl.absoluteString, image := none }
         nameLabel := some furniture.name
         descriptionLabel := some furniture.description },
        some
          { imageUrl := furniture.imageUrl
            imageUrlString := furniture.imageUrl.absoluteString }) := by
  simp [setViewModel, configureCell, DownloadingImageView.loadImage]

end FurnitureTableViewCell

end FurnitureAR
