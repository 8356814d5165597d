import Warden.Text.CharacterSet.Chinese
import Warden.Text.CharacterSet.Escapes
import Warden.Text.CharacterSet.HostName
import Warden.Text.CharacterSet.Korean
import Warden.Text.CharacterSet.Punycode
import Warden.Text.CharacterSet.SingleByte
import Warden.Text.CharacterSet.Switching
import Warden.Text.CharacterSet.Utf7

/-!
Character sets by name. A text in one of them is read into symbols, or is unreadable as a whole.
-/

namespace Warden.Text

structure CharacterSet where
  name : String
  aliases : List String
  read : List UInt8 → Option (List Symbol)

namespace CharacterSet

def ofSingleByte (set : SingleByte) : CharacterSet :=
  ⟨set.name, set.aliases, set.read⟩

def severalBytes : List CharacterSet := [
  ⟨"ascii", ["646", "ansi_x3_4_1968", "ansi_x3_4_1986", "cp367", "csascii", "ibm367", "iso646_us",
      "iso_ir_6", "us", "us_ascii"], Basic.read⟩,
  ⟨"utf_8", ["cp65001", "u8", "utf", "utf8", "utf8_ucs2", "utf8_ucs4"], Utf8.read⟩,
  ⟨"utf_8_sig", [], Utf8.readMarked⟩,
  ⟨"utf_7", ["u7", "unicode_1_1_utf_7", "utf7"], Utf7.read⟩,
  ⟨"utf_16", ["u16", "utf16"], Utf16.readMarked⟩,
  ⟨"utf_16_le", ["unicodelittleunmarked", "utf_16le"], Utf16.read .lowFirst⟩,
  ⟨"utf_16_be", ["unicodebigunmarked", "utf_16be"], Utf16.read .highFirst⟩,
  ⟨"utf_32", ["u32", "utf32"], Utf32.readMarked⟩,
  ⟨"utf_32_le", ["utf_32le"], Utf32.read .lowFirst⟩,
  ⟨"utf_32_be", ["utf_32be"], Utf32.read .highFirst⟩,
  ⟨"unicode_escape", [], FullEscapes.read⟩,
  ⟨"raw_unicode_escape", [], PlainEscapes.read⟩,
  ⟨"punycode", [], Punycode.read⟩,
  ⟨"idna", [], HostName.read⟩,
  ⟨"undefined", [], fun _ => none⟩,
  ⟨"gb2312", ["chinese", "csiso58gb231280", "euc_cn", "euccn", "eucgb2312_cn", "gb2312_1980",
      "gb2312_80", "iso_ir_58", "x_mac_simp_chinese"], Gb2312.read⟩,
  ⟨"gbk", ["936", "cp936", "ms936"], Gbk.read⟩,
  ⟨"gb18030", ["gb18030_2000"], Gb18030.read⟩,
  ⟨"hz", ["hz_gb", "hz_gb_2312", "hzgb"], Tilde.read⟩,
  ⟨"big5", ["big5_tw", "csbig5", "x_mac_trad_chinese"], Big5.read⟩,
  ⟨"cp950", ["950", "ms950"], Big5.readVariant⟩,
  ⟨"big5hkscs", ["big5_hkscs", "hkscs"], Hkscs.read⟩,
  ⟨"euc_kr", ["euckr", "korean", "ks_c_5601", "ks_c_5601_1987", "ks_x_1001", "ksc5601", "ksx1001",
      "x_mac_korean"], KsX1001.read⟩,
  ⟨"cp949", ["949", "ms949", "uhc"], AllSyllables.read⟩,
  ⟨"johab", ["cp1361", "ms1361"], Johab.read⟩,
  ⟨"iso2022_kr", ["csiso2022kr", "iso2022kr", "iso_2022_kr"], Switching.read .korean⟩,
  ⟨"euc_jp", ["eucjp", "u_jis", "ujis"], HighBit.readFirst⟩,
  ⟨"euc_jisx0213", ["eucjisx0213"], HighBit.readExtended .first⟩,
  ⟨"euc_jis_2004", ["euc_jis2004", "eucjis2004", "jisx0213"], HighBit.readExtended .second⟩,
  ⟨"shift_jis", ["csshiftjis", "s_jis", "shiftjis", "sjis", "x_mac_japanese"], TwoRows.read⟩,
  ⟨"cp932", ["932", "ms932", "ms_kanji", "mskanji"], TwoRows.readVariant⟩,
  ⟨"shift_jisx0213", ["s_jisx0213", "shiftjisx0213", "sjisx0213"], TwoRows.readExtended .first⟩,
  ⟨"shift_jis_2004", ["s_jis_2004", "shiftjis2004", "sjis_2004"], TwoRows.readExtended .second⟩,
  ⟨"iso2022_jp", ["csiso2022jp", "iso2022jp", "iso_2022_jp"], Switching.read .japanese⟩,
  ⟨"iso2022_jp_1", ["iso2022jp_1", "iso_2022_jp_1"], Switching.read .supplementary⟩,
  ⟨"iso2022_jp_2", ["iso2022jp_2", "iso_2022_jp_2"], Switching.read .multilingual⟩,
  ⟨"iso2022_jp_ext", ["iso2022jp_ext", "iso_2022_jp_ext"], Switching.read .halfWidth⟩,
  ⟨"iso2022_jp_3", ["iso2022jp_3", "iso_2022_jp_3"], Switching.read (.extended .first)⟩,
  ⟨"iso2022_jp_2004", ["iso2022jp_2004", "iso_2022_jp_2004"], Switching.read (.extended .second)⟩]

def known : List CharacterSet :=
  severalBytes ++ SingleByte.known.map ofSingleByte

def normalized (label : List Char) : String :=
  let isKept := fun (character : Char) => character.isAlphanum || character == '.'
  let words := (label.splitOnP fun character => !isKept character).filter fun word => !word.isEmpty
  "_".intercalate (words.map fun word => String.ofList (word.map Char.toLower))

def find? (label : List Char) : Option CharacterSet :=
  let name := normalized label
  let pointless := String.ofList (name.toList.map fun part => if part == '.' then '_' else part)
  known.find? fun set => set.name == name || set.aliases.contains pointless

/-- Reads a text whose set a label tells. A label of no set here means the basic alphabet, and an
empty text is one in every set. -/
def readLabelled (label : List Char) (bytes : List UInt8) : Option (List Symbol) :=
  if bytes.isEmpty then some []
  else match find? label with
    | some set => set.read bytes
    | none => Basic.read bytes

end CharacterSet

end Warden.Text
