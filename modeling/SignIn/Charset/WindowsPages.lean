import SignIn.Charset.Codepage

/-!
# Windows pages

The pages of Windows, which put signs where the ISO pages have controls.
-/

namespace SignIn

namespace Codepage

def windows : List Named :=
  [⟨"cp874", [],
    ⟨[(0x80, "€����…�����������‘’“”•–—��������\xa0กขฃคฅฆงจฉชซฌญฎฏฐฑฒณดตถทธนบปผฝพฟ"),
      (0xC0, "ภมยรฤลฦวศษสหฬอฮฯะ\u0e31าำ\u0e34\u0e35\u0e36\u0e37\u0e38\u0e39\u0e3a����฿เแโใไๅๆ"),
      (0xE7, "\u0e47\u0e48\u0e49\u0e4a\u0e4b\u0e4c\u0e4d\u0e4e๏๐๑๒๓๔๕๖๗๘๙๚๛����")]⟩⟩,
   ⟨"cp1250", ["1250", "windows_1250"],
    ⟨[(0x80, "€�‚�„…†‡�‰Š‹ŚŤŽŹ�‘’“”•–—�™š›śťžź\xa0ˇ˘Ł¤Ą"), (0xAA, "Ş"), (0xAF, "Ż°±˛ł"),
      (0xB9, "ąş»Ľ˝ľżŔÁÂĂÄĹĆÇČÉĘËĚÍÎĎĐŃŇÓÔŐÖ×ŘŮÚŰÜÝŢßŕáâăäĺćçčéęëěíîďđńňóôőö÷ř"),
      (0xF9, "ůúűüýţ˙")]⟩⟩,
   ⟨"cp1251", ["1251", "windows_1251"],
    ⟨[(0x80, "ЂЃ‚ѓ„…†‡€‰Љ‹ЊЌЋЏђ‘’“”•–—�™љ›њќћџ\xa0ЎўЈ¤Ґ¦§Ё©Є"), (0xAF, "Ї°±Ііґ"),
      (0xB8, "ё№є»јЅѕїАБВГДЕЖЗИЙКЛМНОПРСТУФХЦЧШЩЪЫЬЭЮЯабвгдежзийклмнопрстуфхцч"),
      (0xF8, "шщъыьэюя")]⟩⟩,
   ⟨"cp1252", ["1252", "windows_1252"],
    ⟨[(0x80, "€�‚ƒ„…†‡ˆ‰Š‹Œ�Ž��‘’“”•–—˜™š›œ�žŸ")]⟩⟩,
   ⟨"cp1253", ["1253", "windows_1253"],
    ⟨[(0x80, "€�‚ƒ„…†‡�‰�‹�����‘’“”•–—�™�›����\xa0΅Ά"), (0xAA, "�"), (0xAF, "―"), (0xB4, "΄"),
      (0xB8, "ΈΉΊ»Ό½ΎΏΐΑΒΓΔΕΖΗΘΙΚΛΜΝΞΟΠΡ�ΣΤΥΦΧΨΩΪΫάέήίΰαβγδεζηθικλμνξοπρςστυφχ"),
      (0xF8, "ψωϊϋόύώ�")]⟩⟩,
   ⟨"cp1254", ["1254", "windows_1254"],
    ⟨[(0x80, "€�‚ƒ„…†‡ˆ‰Š‹Œ����‘’“”•–—˜™š›œ��Ÿ"), (0xD0, "Ğ"), (0xDD, "İŞ"), (0xF0, "ğ"),
      (0xFD, "ış")]⟩⟩,
   ⟨"cp1255", ["1255", "windows_1255"],
    ⟨[(0x80, "€�‚ƒ„…†‡ˆ‰�‹�����‘’“”•–—˜™�›����"), (0xA4, "₪"), (0xAA, "×"), (0xBA, "÷"),
      (0xC0, "\u05b0\u05b1\u05b2\u05b3\u05b4\u05b5\u05b6\u05b7\u05b8\u05b9�\u05bb\u05bc\u05bd"),
      (0xCE, "\u05be\u05bf\u05c0\u05c1\u05c2\u05c3\u05f0\u05f1\u05f2\u05f3\u05f4�������\u05d0"),
      (0xE1, "\u05d1\u05d2\u05d3\u05d4\u05d5\u05d6\u05d7\u05d8\u05d9\u05da\u05db\u05dc\u05dd"),
      (0xEE, "\u05de\u05df\u05e0\u05e1\u05e2\u05e3\u05e4\u05e5\u05e6\u05e7\u05e8\u05e9\u05ea��"),
      (0xFD, "\u200e\u200f�")]⟩⟩,
   ⟨"cp1256", ["1256", "windows_1256"],
    ⟨[(0x80, "€\u067e‚ƒ„…†‡ˆ‰\u0679‹Œ\u0686\u0698\u0688\u06af‘’“”•–—\u06a9™\u0691›œ\u200c"),
      (0x9E, "\u200d\u06ba\xa0،"), (0xAA, "\u06be"), (0xBA, "\u061b"),
      (0xBF, "\u061f\u06c1\u0621\u0622\u0623\u0624\u0625\u0626\u0627\u0628\u0629\u062a\u062b"),
      (0xCC, "\u062c\u062d\u062e\u062f\u0630\u0631\u0632\u0633\u0634\u0635\u0636×\u0637\u0638"),
      (0xDA, "\u0639\u063a\u0640\u0641\u0642\u0643à\u0644â\u0645\u0646\u0647\u0648"),
      (0xEC, "\u0649\u064aîï\u064b\u064c\u064d\u064eô\u064f\u0650÷\u0651ù\u0652ûü\u200e\u200f"),
      (0xFF, "\u06d2")]⟩⟩,
   ⟨"cp1257", ["1257", "windows_1257"],
    ⟨[(0x80, "€�‚�„…†‡�‰�‹�¨ˇ¸�‘’“”•–—�™�›�¯˛�\xa0�"), (0xA5, "�¦§Ø©Ŗ"), (0xAF, "Æ"),
      (0xB8, "ø¹ŗ"), (0xBF, "æĄĮĀĆÄÅĘĒČÉŹĖĢĶĪĻŠŃŅÓŌ"), (0xD8, "ŲŁŚŪÜŻŽßąįāćäåęēčéźėģķīļšńņóō"),
      (0xF8, "ųłśūüżž˙")]⟩⟩,
   ⟨"cp1258", ["1258", "windows_1258"],
    ⟨[(0x80, "€�‚ƒ„…†‡ˆ‰�‹Œ����‘’“”•–—˜™�›œ��Ÿ"), (0xC3, "Ă"), (0xCC, "\u0300"),
      (0xD0, "ĐÑ\u0309ÓÔƠ"), (0xDD, "Ư\u0303"), (0xE3, "ă"), (0xEC, "\u0301"),
      (0xF0, "đñ\u0323óôơ"), (0xFD, "ư₫")]⟩⟩]

end Codepage

end SignIn
