import CallBook.Http.Charset.Chinese
import CallBook.Http.Charset.Japanese
import CallBook.Http.Charset.Korean
import CallBook.Http.CodePage
import CallBook.Http.MediaType
import CallBook.Text.Blank

/-!
# The text of a response body

A body is text in the encoding that the content type names, UTF-8 if it names none or one that is
not known. A byte order mark at the front wins over the content type and is no part of the text.
What is broken becomes the replacement character.
-/

namespace CallBook.Http

open CallBook.Text

/-! ### Units of 16 bits -/

/-- A unit of 16 bits; `bigFirst` says which byte is the upper half. -/
def unit16 (bigFirst : Bool) (a b : UInt8) : Nat :=
  if bigFirst then a.toNat * 256 + b.toNat else b.toNat * 256 + a.toNat

/-- The text of units of 16 bits; a surrogate without its partner is broken. -/
def utf16Text (bigFirst : Bool) : List UInt8 → List Char
  | [] => []
  | [_] => [Utf8.replacement]
  | a :: b :: rest =>
    let u := unit16 bigFirst a b
    if 0xD800 ≤ u ∧ u ≤ 0xDBFF then
      match rest with
      | c :: d :: more =>
        let v := unit16 bigFirst c d
        if 0xDC00 ≤ v ∧ v ≤ 0xDFFF then
          Char.ofNat (0x10000 + (u - 0xD800) * 1024 + (v - 0xDC00)) :: utf16Text bigFirst more
        else Utf8.replacement :: utf16Text bigFirst (c :: d :: more)
      | _ => [Utf8.replacement]
    else if 0xDC00 ≤ u ∧ u ≤ 0xDFFF then Utf8.replacement :: utf16Text bigFirst rest
    else Char.ofNat u :: utf16Text bigFirst rest

/-! ### Encodings -/

/-- Bytes from 128 on stand for characters for private use. -/
def userDefinedText (bytes : List UInt8) : List Char :=
  bytes.map fun b => Char.ofNat (if b < 128 then b.toNat else 0xF700 + b.toNat)

/-- Bytes that are not to be read: one replacement character stands for all of them. -/
def unreadText (bytes : List UInt8) : List Char :=
  if bytes.isEmpty then [] else [Utf8.replacement]

/-- Encodings that are no code pages, by their labels. -/
def decoders : List (List String × (List UInt8 → List Char)) :=
  [(["csshiftjis", "ms932", "ms_kanji", "shift-jis", "shift_jis", "sjis", "windows-31j", "x-sjis"],
      shiftJisText),
    (["cseucpkdfmtjapanese", "euc-jp", "x-euc-jp"], eucText),
    (["csiso2022jp", "iso-2022-jp"], iso2022Text .ascii false),
    (["chinese", "csgb2312", "csiso58gb231280", "gb18030", "gb2312", "gb_2312", "gb_2312-80", "gbk",
      "iso-ir-58", "x-gbk"], guobiaoText),
    (["big5", "big5-hkscs", "cn-big5", "csbig5", "x-x-big5"], bigFiveText),
    (["cseuckr", "csksc56011987", "euc-kr", "iso-ir-149", "korean", "ks_c_5601-1987",
      "ks_c_5601-1989", "ksc5601", "ksc_5601", "windows-949"], koreanText),
    (["csunicode", "iso-10646-ucs-2", "ucs-2", "unicode", "unicodefeff", "utf-16", "utf-16le"],
      utf16Text false),
    (["unicodefffe", "utf-16be"], utf16Text true),
    (["x-user-defined"], userDefinedText),
    (["csiso2022kr", "hz-gb-2312", "iso-2022-cn", "iso-2022-cn-ext", "iso-2022-kr", "replacement"],
      unreadText)]

/-- The text of bytes in the encoding with a label, UTF-8 if there is no such encoding. -/
def decodeAs (label : String) (bytes : List UInt8) : List Char :=
  match codePage? label, decoders.find? (·.1.contains label) with
  | some page, _ => page.decode bytes
  | none, some (_, decode) => decode bytes
  | none, none => Utf8.decodeLossy bytes

/-- The encoding that a content type names, in lower case. -/
def charsetLabel? (contentType : List Char) : Option String :=
  (mediaParameter? "charset" contentType).map fun value =>
    lowerAscii (String.ofList (trim value))

/-- The text of a body. -/
def bodyText (contentType : Option (List Char)) (bytes : List UInt8) : String :=
  String.ofList <|
    match bytes with
    | 0xEF :: 0xBB :: 0xBF :: rest => Utf8.decodeLossy rest
    | 0xFE :: 0xFF :: rest => utf16Text true rest
    | 0xFF :: 0xFE :: rest => utf16Text false rest
    | _ => decodeAs ((contentType.bind charsetLabel?).getD "utf-8") bytes

end CallBook.Http
