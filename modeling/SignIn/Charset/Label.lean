import SignIn.Charset.Basic
import SignIn.Charset.Escaped
import SignIn.Charset.MacintoshPages
import SignIn.Charset.MainframePages
import SignIn.Charset.OtherPages
import SignIn.Charset.PersonalComputerPages
import SignIn.Charset.Utf7
import SignIn.Charset.WindowsPages
import SignIn.Text.Blank

/-!
# Labels of character sets

A character set has a name and goes by further names. A label is compared with them in lower case
and with one underscore for everything between its letters, digits and full stops; a full stop may
stand for an underscore in a further name, but not in the name itself.
-/

namespace SignIn

namespace Charset

/-- A character set with its name and with further names under which it is known. -/
structure Named where
  name : String
  aliases : List String
  charset : Charset

/-- The character set for answers that name none. -/
def utf8 : Charset := .units (Utf8.units false)

def unicode : List Named :=
  [⟨"utf_8", ["u8", "utf", "utf8", "utf8_ucs2", "utf8_ucs4", "cp65001"], utf8⟩,
   ⟨"utf_8_sig", [], .signedUtf8⟩,
   ⟨"utf_7", ["u7", "utf7", "unicode_1_1_utf_7"], .units Utf7.units⟩,
   ⟨"utf_16", ["u16", "utf16"], .markedUtf16⟩,
   ⟨"utf_16_be", ["unicodebigunmarked", "utf_16be"], .units (utf16 .bigEndian)⟩,
   ⟨"utf_16_le", ["unicodelittleunmarked", "utf_16le"], .units (utf16 .littleEndian)⟩,
   ⟨"utf_32", ["u32", "utf32"], .markedUtf32⟩,
   ⟨"utf_32_be", ["utf_32be"], .units (utf32 .bigEndian)⟩,
   ⟨"utf_32_le", ["utf_32le"], .units (utf32 .littleEndian)⟩,
   ⟨"unicode_escape", [], .units Escaped.full⟩,
   ⟨"raw_unicode_escape", [], .units Escaped.raw⟩,
   ⟨"punycode", [], .punycode⟩]

def japanese : List Named :=
  [⟨"shift_jis", ["csshiftjis", "shiftjis", "sjis", "s_jis", "x_mac_japanese"],
     .units Japanese.shiftJis⟩,
   ⟨"cp932", ["932", "ms932", "mskanji", "ms_kanji"], .units Japanese.windows⟩,
   ⟨"euc_jp", ["eucjp", "ujis", "u_jis"], .units Japanese.eucJp⟩,
   ⟨"shift_jisx0213", ["shiftjisx0213", "sjisx0213", "s_jisx0213"],
     .units (Japanese.shifted .first)⟩,
   ⟨"shift_jis_2004", ["shiftjis2004", "sjis_2004", "s_jis_2004"],
     .units (Japanese.shifted .second)⟩,
   ⟨"euc_jisx0213", ["eucjisx0213"], .units (Japanese.euc .first)⟩,
   ⟨"euc_jis_2004", ["jisx0213", "eucjis2004", "euc_jis2004"], .units (Japanese.euc .second)⟩,
   ⟨"iso2022_jp", ["csiso2022jp", "iso2022jp", "iso_2022_jp"],
     .sequences Iso2022.japaneseBase⟩,
   ⟨"iso2022_jp_1", ["iso2022jp_1", "iso_2022_jp_1"], .sequences Iso2022.japaneseOne⟩,
   ⟨"iso2022_jp_2", ["iso2022jp_2", "iso_2022_jp_2"], .sequences Iso2022.japaneseTwo⟩,
   ⟨"iso2022_jp_3", ["iso2022jp_3", "iso_2022_jp_3"],
     .sequences (Iso2022.japaneseThree .first)⟩,
   ⟨"iso2022_jp_2004", ["iso_2022_jp_2004", "iso2022jp_2004"],
     .sequences (Iso2022.japaneseThree .second)⟩,
   ⟨"iso2022_jp_ext", ["iso2022jp_ext", "iso_2022_jp_ext"],
     .sequences Iso2022.japaneseExtended⟩]

def chinese : List Named :=
  [⟨"gb2312", ["chinese", "csiso58gb231280", "euc_cn", "euccn", "eucgb2312_cn", "gb2312_1980",
     "gb2312_80", "iso_ir_58", "x_mac_simp_chinese"], .units Chinese.gb2312⟩,
   ⟨"gbk", ["936", "cp936", "ms936"], .units Chinese.gbk⟩,
   ⟨"gb18030", ["gb18030_2000"], .units Chinese.gb18030⟩,
   ⟨"hz", ["hzgb", "hz_gb", "hz_gb_2312"], .units Chinese.hz⟩,
   ⟨"big5", ["big5_tw", "csbig5", "x_mac_trad_chinese"], .units Chinese.big5⟩,
   ⟨"cp950", ["950", "ms950"], .units Chinese.windows⟩,
   ⟨"big5hkscs", ["big5_hkscs", "hkscs"], .units Chinese.hkscs⟩]

def korean : List Named :=
  [⟨"euc_kr", ["euckr", "korean", "ksc5601", "ks_c_5601", "ks_c_5601_1987", "ksx1001", "ks_x_1001",
     "x_mac_korean"], .units Korean.eucKr⟩,
   ⟨"cp949", ["949", "ms949", "uhc"], .units Korean.windows⟩,
   ⟨"johab", ["cp1361", "ms1361"], .units Korean.johab⟩,
   ⟨"iso2022_kr", ["csiso2022kr", "iso2022kr", "iso_2022_kr"],
     .sequences Iso2022.korean⟩]

/-- The conversions that cannot be applied to the octets of an answer, by name. -/
def conversions : List Named :=
  [⟨"idna", [], .unusable .unreadable⟩,
   ⟨"undefined", [], .unusable .unreadable⟩,
   ⟨"rot_13", ["rot13"], .unusable .wrongType⟩,
   ⟨"base64_codec", ["base64", "base_64"], .unusable .strictOnly⟩,
   ⟨"hex_codec", ["hex"], .unusable .strictOnly⟩,
   ⟨"quopri_codec", ["quopri", "quoted_printable", "quotedprintable"], .unusable .strictOnly⟩,
   ⟨"uu_codec", ["uu"], .unusable .strictOnly⟩,
   ⟨"bz2_codec", ["bz2"], .unusable .strictOnly⟩,
   ⟨"zlib_codec", ["zip", "zlib"], .unusable .strictOnly⟩]

/-- ASCII by name. -/
def plain : Named :=
  ⟨"ascii", ["646", "ansi_x3.4_1968", "ansi_x3_4_1968", "ansi_x3.4_1986", "cp367", "csascii",
     "ibm367", "iso646_us", "iso_646.irv_1991", "iso_ir_6", "us", "us_ascii"], .units ascii⟩

/-- The page that gives every octet the code point of its number goes by a name of its own, too. -/
def charmap : Codepage.Named := ⟨"charmap", [], Codepage.latin1⟩

def pages : List Codepage.Named :=
  charmap :: Codepage.iso ++ Codepage.windows ++ Codepage.personalComputer ++ Codepage.mainframe ++
    Codepage.macintosh ++ Codepage.others

def ofPage (page : Codepage.Named) : Named :=
  ⟨page.name, page.aliases, .units (scanPage page.page.char?)⟩

def all : List Named :=
  plain :: unicode ++ pages.map ofPage ++ japanese ++ chinese ++ korean ++ conversions

def fullStop : CodePoint := .ofChar '.'

def underscore : CodePoint := .ofChar '_'

/-- A label as names are written. -/
def normalizeLabel (label : Text) : Text :=
  let kept (c : CodePoint) : Bool := c.isAsciiAlphanumeric || c = fullStop
  let spaced := label.toAsciiLower.map fun c => if kept c then c else CodePoint.ofByte 0x20
  Text.joinWith [underscore] (Text.words spaced)

/-- The character set that has a text among its further names. -/
def ofAlias? (wanted : Text) : Option Charset :=
  (all.find? fun entry => entry.aliases.any fun name => Text.ofString name == wanted).map
    (·.charset)

def ofName? (wanted : Text) : Option Charset :=
  (all.find? fun entry => Text.ofString entry.name == wanted).map (·.charset)

/-- The character set of a label. A label cannot hold NUL. -/
def ofLabel? (label : Text) : Except Fault (Option Charset) :=
  if label.contains (CodePoint.ofByte 0) then .error .badValue
  else
    let wanted := normalizeLabel label
    let unstopped := wanted.map fun c => if c = fullStop then underscore else c
    .ok (((ofAlias? wanted).or (ofAlias? unstopped)).or (ofName? wanted))

end Charset

end SignIn
