import SignIn.Charset.Plane

/-!
# Windows page 950

The characters for which the page of Windows for traditional Chinese departs from Big5.
-/

namespace SignIn

namespace Plane

/-- Signs that differ, and the sign of the euro. -/
def windows950Signs : Plane :=
  ⟨0xA1, 0x40, 191,
    [(5, "‧"), (14, "﹑"), (130, "¯"), (163, "～"), (178, "⊕⊙"), (192, "∕﹨�￥�￠￡"),
     (543, "€")]⟩

/-- Ideographs and lines behind the last ones of Big5. -/
def windows950Boxes : Plane :=
  ⟨0xF9, 0xD6, 41,
    [(0, "碁銹裏墻恒粧嫺╔╦╗╠╬╣╚╩╝╒╤╕╞╪╡╘╧╛╓╥╖╟╫╢╙╨╜║═╭╮╰╯▓")]⟩

end Plane

end SignIn
