import Estate.Domain.Direction
import Estate.Domain.Joining
import Estate.Domain.Mapping
import Estate.Domain.Punycode

/-!
Domain names written in ASCII. Labels with other characters are checked and written in Punycode
behind the mark xn--.
-/

namespace Estate.Domain

/-- A valid label holds kept characters in composed form and does not start with a mark. -/
def isValidLabel (label : List Char) : Bool :=
  Text.compose label == label && !label.head?.any Text.isMark &&
    label.all (fun c => fate c == .kept) && joinersFit [] label

/-- The characters a label stands for. -/
def Label.shown? (label : List Char) : Option (List Char) :=
  match label with
  | 'x' :: 'n' :: '-' :: '-' :: code =>
    (Punycode.decode? code).bind fun shown =>
      if code.all Text.isAscii && shown.any (!Text.isAscii ·) && isValidLabel shown then some shown
      else none
  | _ => if label.all Text.isAscii || isValidLabel label then some label else none

def Label.inAscii (shown : List Char) : List Char :=
  if shown.all Text.isAscii then shown else "xn--".toList ++ Punycode.encode shown

/-- Characters no domain name of an address may hold. -/
def isForbidden (c : Char) : Bool :=
  c ≤ ' ' || c == '\x7f' || "%#/:<>?@[\\]^|".toList.contains c

def toAscii? (name : List Char) : Option (List Char) :=
  (mapped? name).bind fun mapped =>
    ((Text.compose mapped).splitOn '.').mapM Label.shown? |>.bind fun labels =>
      let twoWay := labels.any (·.any isRightToLeft)
      let ascii := (['.'].intercalate (labels.map Label.inAscii))
      if (twoWay && !labels.all keepsDirection) || ascii.any isForbidden then none else some ascii

end Estate.Domain
