import SignIn.Charset.Codepage

/-!
# Other pages

Pages for Cyrillic mail, for Central Asia, for printers and for handheld computers.
-/

namespace SignIn

namespace Codepage

def others : List Named :=
  [⟨"koi8_r", ["cskoi8r"],
    ⟨[(0x80, "─│┌┐└┘├┤┬┴┼▀▄█▌▐░▒▓⌠■∙√≈≤≥\xa0⌡°²·÷═║╒ё╓╔╕╖╗╘╙╚╛╜╝╞╟╠╡Ё╢╣╤╥╦╧╨╩╪╫╬©"),
      (0xC0, "юабцдефгхийклмнопярстужвьызшэщчъЮАБЦДЕФГХИЙКЛМНОПЯРСТУЖВЬЫЗШЭЩЧЪ")]⟩⟩,
   ⟨"koi8_t", [],
    ⟨[(0x80, "қғ‚Ғ„…†‡�‰ҳ‹ҲҷҶ�Қ‘’“”•–—�™�›�����ӯӮё¤ӣ¦§���"), (0xAF, "�"),
      (0xB3, "Ё�Ӣ¶·�№�»���©юабцдефгхийклмнопярстужвьызшэщчъЮАБЦДЕФГХИЙКЛМНОПЯР"),
      (0xF3, "СТУЖВЬЫЗШЭЩЧЪ")]⟩⟩,
   ⟨"koi8_u", [],
    ⟨[(0x80, "─│┌┐└┘├┤┬┴┼▀▄█▌▐░▒▓⌠■∙√≈≤≥\xa0⌡°²·÷═║╒ёє╔ії╗╘╙╚╛ґ╝╞╟╠╡ЁЄ╣ІЇ╦╧╨╩╪Ґ╬©"),
      (0xC0, "юабцдефгхийклмнопярстужвьызшэщчъЮАБЦДЕФГХИЙКЛМНОПЯРСТУЖВЬЫЗШЭЩЧЪ")]⟩⟩,
   ⟨"kz1048", ["kz_1048", "rk1048", "strk1048_2002"],
    ⟨[(0x80, "ЂЃ‚ѓ„…†‡€‰Љ‹ЊҚҺЏђ‘’“”•–—�™љ›њқһџ\xa0ҰұӘ¤Ө¦§Ё©Ғ"), (0xAF, "Ү°±Ііө"),
      (0xB8, "ё№ғ»әҢңүАБВГДЕЖЗИЙКЛМНОПРСТУФХЦЧШЩЪЫЬЭЮЯабвгдежзийклмнопрстуфхцч"),
      (0xF8, "шщъыьэюя")]⟩⟩,
   ⟨"ptcp154", ["csptcp154", "pt154", "cp154", "cyrillic_asian"],
    ⟨[(0x80, "ҖҒӮғ„…ҶҮҲүҠӢҢҚҺҸҗ‘’“”•–—ҳҷҡӣңқһҹ\xa0ЎўЈӨҘҰ§Ё©Ә«¬ӯ®Ҝ°ұІіҙө¶·ё№ә»јҪҫҝ"),
      (0xC0, "АБВГДЕЖЗИЙКЛМНОПРСТУФХЦЧШЩЪЫЬЭЮЯабвгдежзийклмнопрстуфхцчшщъыьэюя")]⟩⟩,
   ⟨"hp_roman8", ["roman8", "r8", "cp1051", "ibm1051"],
    ⟨[(0xA1, "ÀÂÈÊËÎÏ´ˋˆ¨˜ÙÛ₤¯Ýý°ÇçÑñ¡¿¤£¥§ƒ¢âêôûáéóúàèòùäëöüÅîØÆåíøæÄìÖÜÉïßÔÁ"),
      (0xE1, "ÃãÐðÍÌÓÒÕõŠšÚŸÿÞþ·µ¶¾—¼½ªº«■»±�")]⟩⟩,
   ⟨"palmos", [],
    ⟨[(0x80, "€\x81‚ƒ„…†‡ˆ‰Š‹Œ♦♣♥♠‘’“”•–—˜™š\x9bœ\x9d\x9eŸ")]⟩⟩]

end Codepage

end SignIn
