import Estate.Rule
import Estate.Text.Blank
import Estate.Text.Case
import Estate.Url.Parser

/-!
Addresses of pictures: which are accepted, and the form they are kept in.
-/

namespace Estate.ImageUrl

/-- Whether addresses by http become https, the file extensions accepted, and the replacements that
lead from small pictures to full ones. -/
structure Policy where
  upgrade : Bool
  extensions : List String
  thumbnails : List ThumbnailPattern

def commonExtensions : List String :=
  ["jpg", "jpeg", "png", "gif", "webp", "avif", "svg", "bmp", "tiff"]

def Policy.standard : Policy := ⟨true, commonExtensions, []⟩

/-- What follows the last point of the last segment, if it looks like a file extension. -/
def extension? (u : Url) : Option String :=
  u.lastSegment?.bind fun segment =>
    let ending := (segment.toList.reverse.takeWhile (· != '.')).reverse
    if segment.toList.contains '.' && !ending.isEmpty && ending.length ≤ 5 &&
        ending.all Text.isAsciiAlphanumeric then
      some (.ofList (ending.map Text.lowerAscii))
    else none

/-- An address without an extension is accepted. -/
def Policy.accepts (p : Policy) (u : Url) : Bool :=
  (extension? u).all fun ext => p.extensions.any (Text.sameIgnoringAsciiCase · ext)

def Policy.enlarge (p : Policy) (address : String) : String :=
  p.thumbnails.foldl (fun text t =>
    .ofList (Text.replaceText t.pattern.toList t.replacement.toList text.toList)) address

/-- The address of a picture on the web, by the secure scheme if addresses are upgraded. -/
def Policy.secured? (p : Policy) (u : Url) : Option Url :=
  if u.scheme == "https" then some u
  else if u.scheme == "http" then some (if p.upgrade then u.withScheme "https" else u)
  else none

def Policy.normalize? (p : Policy) (raw : String) : Option String :=
  let text := Text.trimmed raw
  let absolute := if text.startsWith "//" then "https:" ++ text else text
  (Url.ofText absolute).toOption.bind fun u =>
    (p.secured? u).bind fun u =>
      if u.hostText.isEmpty || !p.accepts u then none else some (p.enlarge u.toText)

end Estate.ImageUrl
