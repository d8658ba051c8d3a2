import KernelCalls.CallInfo

namespace KernelCalls

/-!
# Image predicates

Yes-or-no questions about image calls, each a condition on the category of a description and, for
some, on its pixel format.

* `ImagePredicate` : the questions, `ImagePredicate.holds` : their answers
-/

/-- The questions about image calls. A format narrows a question to the calls that select it. -/
inductive ImagePredicate where
  | image
  | query
  | sampledRead (format : Option PixelFormat)
  | unsampledRead (format : Option PixelFormat)
  | write (format : Option PixelFormat)
  | height
  | width
  | depth
  | dimensions
  deriving DecidableEq, Repr

namespace ImagePredicate

/-- All questions that have a name. -/
def all : List ImagePredicate :=
  [.image, .sampledRead none, .sampledRead (some .float), .sampledRead (some .uint),
   .sampledRead (some .int), .unsampledRead none, .unsampledRead (some .float),
   .unsampledRead (some .uint), .unsampledRead (some .int), .write none, .write (some .float),
   .write (some .uint), .write (some .int), .height, .width, .depth, .dimensions, .query]

/-- How a format is spelled in the name of a question. -/
def formatWord : Option PixelFormat → String
  | none => ""
  | some f => f.name.toLower ++ "_"

/-- The name of a question. -/
def name : ImagePredicate → String
  | .image => "is_image_builtin"
  | .query => "is_image_query"
  | .sampledRead f => "is_" ++ formatWord f ++ "sampled_image_read"
  | .unsampledRead f => "is_" ++ formatWord f ++ "unsampled_image_read"
  | .write f => "is_" ++ formatWord f ++ "image_write"
  | .height => "is_get_image_height"
  | .width => "is_get_image_width"
  | .depth => "is_get_image_depth"
  | .dimensions => "is_get_image_dim"

/-- The question of the given name. -/
def ofName? (text : Text) : Option ImagePredicate :=
  all.find? fun p => Text.ofString p.name == text

/-- The call has the category, and the format if one is asked for. -/
def ofCategory (category : Category) (format : Option PixelFormat) (info : CallInfo) : Bool :=
  info.category == category && (format.isNone || info.variant.format == format)

/-- The answer for a call. -/
def holds : ImagePredicate → CallInfo → Bool
  | .image, info => info.category.isImage
  | .query, info => info.category.isImageQuery
  | .sampledRead f, info => ofCategory .readImageSampled f info
  | .unsampledRead f, info => ofCategory .readImageUnsampled f info
  | .write f, info => ofCategory .writeImage f info
  | .height, info => ofCategory .getImageHeight none info
  | .width, info => ofCategory .getImageWidth none info
  | .depth, info => ofCategory .getImageDepth none info
  | .dimensions, info => ofCategory .getImageDim none info

end ImagePredicate

end KernelCalls
