import SignIn.Charset.Codepage

/-!
# ISO pages

The parts of ISO 8859: ASCII in the lower half, the letters of a group of languages in the upper
one. The standard page for Thai and the part made from it differ in a single place.
-/

namespace SignIn

namespace Codepage

def iso : List Named :=
  [⟨"latin_1", ["8859", "cp819", "csisolatin1", "ibm819", "iso8859", "iso8859_1", "iso_8859_1",
     "iso_8859_1_1987", "iso_ir_100", "l1", "latin", "latin1"], ⟨[]⟩⟩,
   ⟨"iso8859_2", ["csisolatin2", "iso_8859_2", "iso_8859_2_1987", "iso_ir_101", "l2", "latin2"],
    ⟨[(0xA1, "Ą˘Ł¤ĽŚ§¨ŠŞŤŹ\xadŽŻ°ą˛ł´ľśˇ¸šşťź˝žżŔÁÂĂÄĹĆÇČÉĘËĚÍÎĎĐŃŇÓÔŐÖ×ŘŮÚŰÜÝŢßŕ"),
      (0xE1, "áâăäĺćçčéęëěíîďđńňóôőö÷řůúűüýţ˙")]⟩⟩,
   ⟨"iso8859_3", ["csisolatin3", "iso_8859_3", "iso_8859_3_1988", "iso_ir_109", "l3", "latin3"],
    ⟨[(0xA1, "Ħ˘£¤�Ĥ§¨İŞĞĴ\xad�Ż°ħ"), (0xB6, "ĥ·¸ışğĵ½�ż"), (0xC3, "�ÄĊĈ"), (0xD0, "�"),
      (0xD5, "ĠÖ×Ĝ"), (0xDD, "ŬŜ"), (0xE3, "�äċĉ"), (0xF0, "�"), (0xF5, "ġö÷ĝ"), (0xFD, "ŭŝ˙")]⟩⟩,
   ⟨"iso8859_4", ["csisolatin4", "iso_8859_4", "iso_8859_4_1988", "iso_ir_110", "l4", "latin4"],
    ⟨[(0xA1, "ĄĸŖ¤ĨĻ§¨ŠĒĢŦ\xadŽ¯°ą˛ŗ´ĩļˇ¸šēģŧŊžŋĀ"), (0xC7, "ĮČÉĘËĖÍÎĪĐŅŌĶ"), (0xD9, "Ų"),
      (0xDD, "ŨŪßā"), (0xE7, "įčéęëėíîīđņōķ"), (0xF9, "ų"), (0xFD, "ũū˙")]⟩⟩,
   ⟨"iso8859_5", ["csisolatincyrillic", "cyrillic", "iso_8859_5", "iso_8859_5_1988", "iso_ir_144"],
    ⟨[(0xA1, "ЁЂЃЄЅІЇЈЉЊЋЌ\xadЎЏАБВГДЕЖЗИЙКЛМНОПРСТУФХЦЧШЩЪЫЬЭЮЯабвгдежзийклмнопр"),
      (0xE1, "стуфхцчшщъыьэюя№ёђѓєѕіїјљњћќ§ўџ")]⟩⟩,
   ⟨"iso8859_6", ["arabic", "asmo_708", "csisolatinarabic", "ecma_114", "iso_8859_6",
     "iso_8859_6_1987", "iso_ir_127"],
    ⟨[(0xA1, "���¤�������،\xad�������������\u061b���\u061f�\u0621\u0622\u0623\u0624\u0625"),
      (0xC6, "\u0626\u0627\u0628\u0629\u062a\u062b\u062c\u062d\u062e\u062f\u0630\u0631\u0632"),
      (0xD3, "\u0633\u0634\u0635\u0636\u0637\u0638\u0639\u063a�����\u0640\u0641\u0642\u0643"),
      (0xE4, "\u0644\u0645\u0646\u0647\u0648\u0649\u064a\u064b\u064c\u064d\u064e\u064f\u0650"),
      (0xF1, "\u0651\u0652�������������")]⟩⟩,
   ⟨"iso8859_7", ["csisolatingreek", "ecma_118", "elot_928", "greek", "greek8", "iso_8859_7",
     "iso_8859_7_1987", "iso_ir_126"],
    ⟨[(0xA1, "‘’£€₯"), (0xAA, "ͺ"), (0xAE, "�―"),
      (0xB4, "΄΅Ά·ΈΉΊ»Ό½ΎΏΐΑΒΓΔΕΖΗΘΙΚΛΜΝΞΟΠΡ�ΣΤΥΦΧΨΩΪΫάέήίΰαβγδεζηθικλμνξοπρςσ"),
      (0xF4, "τυφχψωϊϋόύώ�")]⟩⟩,
   ⟨"iso8859_8", ["csisolatinhebrew", "hebrew", "iso_8859_8", "iso_8859_8_1988", "iso_ir_138"],
    ⟨[(0xA1, "�"), (0xAA, "×"), (0xBA, "÷"),
      (0xBF, "��������������������������������‗\u05d0\u05d1\u05d2\u05d3\u05d4\u05d5\u05d6"),
      (0xE7, "\u05d7\u05d8\u05d9\u05da\u05db\u05dc\u05dd\u05de\u05df\u05e0\u05e1\u05e2\u05e3"),
      (0xF4, "\u05e4\u05e5\u05e6\u05e7\u05e8\u05e9\u05ea��\u200e\u200f�")]⟩⟩,
   ⟨"iso8859_9", ["csisolatin5", "iso_8859_9", "iso_8859_9_1989", "iso_ir_148", "l5", "latin5"],
    ⟨[(0xD0, "Ğ"), (0xDD, "İŞ"), (0xF0, "ğ"), (0xFD, "ış")]⟩⟩,
   ⟨"iso8859_10", ["csisolatin6", "iso_8859_10", "iso_8859_10_1992", "iso_ir_157", "l6", "latin6"],
    ⟨[(0xA1, "ĄĒĢĪĨĶ§ĻĐŠŦŽ\xadŪŊ°ąēģīĩķ·ļđšŧž―ūŋĀ"), (0xC7, "ĮČÉĘËĖ"), (0xD1, "ŅŌ"),
      (0xD7, "ŨØŲ"), (0xE0, "ā"), (0xE7, "įčéęëė"), (0xF1, "ņō"), (0xF7, "ũøų"), (0xFF, "ĸ")]⟩⟩,
   ⟨"iso8859_11", ["thai", "iso_8859_11", "iso_8859_11_2001"],
    ⟨[(0xA1, "กขฃคฅฆงจฉชซฌญฎฏฐฑฒณดตถทธนบปผฝพฟภมยรฤลฦวศษสหฬอฮฯะ\u0e31าำ\u0e34\u0e35\u0e36\u0e37"),
      (0xD8, "\u0e38\u0e39\u0e3a����฿เแโใไๅๆ\u0e47\u0e48\u0e49\u0e4a\u0e4b\u0e4c\u0e4d\u0e4e๏๐"),
      (0xF1, "๑๒๓๔๕๖๗๘๙๚๛����")]⟩⟩,
   ⟨"iso8859_13", ["iso_8859_13", "l7", "latin7"],
    ⟨[(0xA1, "”"), (0xA5, "„¦§Ø©Ŗ"), (0xAF, "Æ"), (0xB4, "“"), (0xB8, "ø¹ŗ"),
      (0xBF, "æĄĮĀĆÄÅĘĒČÉŹĖĢĶĪĻŠŃŅÓŌ"), (0xD8, "ŲŁŚŪÜŻŽßąįāćäåęēčéźėģķīļšńņóō"),
      (0xF8, "ųłśūüżž’")]⟩⟩,
   ⟨"iso8859_14", ["iso_8859_14", "iso_8859_14_1998", "iso_celtic", "iso_ir_199", "l8", "latin8"],
    ⟨[(0xA1, "Ḃḃ£ĊċḊ§Ẁ©ẂḋỲ\xad®ŸḞḟĠġṀṁ¶ṖẁṗẃṠỳẄẅṡ"), (0xD0, "Ŵ"), (0xD7, "Ṫ"), (0xDE, "Ŷ"),
      (0xF0, "ŵ"), (0xF7, "ṫ"), (0xFE, "ŷ")]⟩⟩,
   ⟨"iso8859_15", ["iso_8859_15", "l9", "latin9"],
    ⟨[(0xA4, "€¥Š§š"), (0xB4, "Ž"), (0xB8, "ž"), (0xBC, "ŒœŸ")]⟩⟩,
   ⟨"iso8859_16", ["iso_8859_16", "iso_8859_16_2001", "iso_ir_226", "l10", "latin10"],
    ⟨[(0xA1, "ĄąŁ€„Š§š©Ș«Ź\xadźŻ°±ČłŽ”¶·žčș»ŒœŸż"), (0xC3, "ĂÄĆ"), (0xD0, "ĐŃ"), (0xD5, "ŐÖŚŰ"),
      (0xDD, "ĘȚ"), (0xE3, "ăäć"), (0xF0, "đń"), (0xF5, "őöśű"), (0xFD, "ęț")]⟩⟩,
   ⟨"tis_620", ["tis620", "tis_620_0", "tis_620_2529_0", "tis_620_2529_1", "iso_ir_166"],
    ⟨[(0xA0, "�กขฃคฅฆงจฉชซฌญฎฏฐฑฒณดตถทธนบปผฝพฟภมยรฤลฦวศษสหฬอฮฯะ\u0e31าำ\u0e34\u0e35\u0e36"),
      (0xD7, "\u0e37\u0e38\u0e39\u0e3a����฿เแโใไๅๆ\u0e47\u0e48\u0e49\u0e4a\u0e4b\u0e4c\u0e4d"),
      (0xEE, "\u0e4e๏๐๑๒๓๔๕๖๗๘๙๚๛����")]⟩⟩]

end Codepage

end SignIn
