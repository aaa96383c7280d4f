/-!
# Letters and digits in ASCII

The plain letters and digits that a Latin letter with marks, a ligature, a digraph or a number
form stands for. The table lists the sources by what they become.

## Main definitions

* `asciiForm`: what one character becomes, if it is in the table
* `foldToAscii`: a text with each character replaced by its plain form
-/

namespace Catalog

/-- Plain forms, each with the characters that become it. -/
def asciiForms : List (String × String) := [
  ("A", "ÀÁÂÃÄÅĀĂĄƏǍǞǠǺȀȂȦȺᴀḀẠẢẤẦẨẪẬẮẰẲẴẶⒶＡ"),
  ("a", "àáâãäåāăąǎǟǡǻȁȃȧɐəɚᶏᶕḁẚạảấầẩẫậắằẳẵặₐₔⓐⱥⱯａ"),
  ("AA", "Ꜳ"),
  ("AE", "ÆǢǼᴁ"),
  ("AO", "Ꜵ"),
  ("AU", "Ꜷ"),
  ("AV", "ꜸꜺ"),
  ("AY", "Ꜽ"),
  ("(a)", "⒜"),
  ("aa", "ꜳ"),
  ("ae", "æǣǽᴂ"),
  ("ao", "ꜵ"),
  ("au", "ꜷ"),
  ("av", "ꜹꜻ"),
  ("ay", "ꜽ"),
  ("B", "ƁƂɃʙᴃḂḄḆⒷＢ"),
  ("b", "ƀƃɓᵬᶀḃḅḇⓑｂ"),
  ("(b)", "⒝"),
  ("C", "ÇĆĈĊČƇȻʗᴄḈⒸＣ"),
  ("c", "çćĉċčƈȼɕḉↄⓒꜾꜿｃ"),
  ("(c)", "⒞"),
  ("D", "ÐĎĐƉƊƋᴅᴆḊḌḎḐḒⒹꝹＤ"),
  ("d", "ðďđƌȡɖɗᵭᶁᶑḋḍḏḑḓⓓꝺｄ"),
  ("DZ", "ǄǱ"),
  ("Dz", "ǅǲ"),
  ("(d)", "⒟"),
  ("db", "ȸ"),
  ("dz", "ǆǳʣʥ"),
  ("E", "ÈÉÊËĒĔĖĘĚƎƐȄȆȨɆᴇḔḖḘḚḜẸẺẼẾỀỂỄỆⒺⱻＥ"),
  ("e", "èéêëēĕėęěǝȅȇȩɇɘɛɜɝɞʚᴈᶒᶓᶔḕḗḙḛḝẹẻẽếềểễệₑⓔⱸｅ"),
  ("(e)", "⒠"),
  ("F", "ƑḞⒻꜰꝻꟻＦ"),
  ("f", "ƒᵮᶂḟẛⓕꝼｆ"),
  ("(f)", "⒡"),
  ("ff", "ﬀ"),
  ("ffi", "ﬃ"),
  ("ffl", "ﬄ"),
  ("fi", "ﬁ"),
  ("fl", "ﬂ"),
  ("G", "ĜĞĠĢƓǤǥǦǧǴɢʛḠⒼꝽꝾＧ"),
  ("g", "ĝğġģǵɠɡᵷᵹᶃḡⓖꝿｇ"),
  ("(g)", "⒢"),
  ("H", "ĤĦȞʜḢḤḦḨḪⒽⱧⱵＨ"),
  ("h", "ĥħȟɥɦʮʯḣḥḧḩḫẖⓗⱨⱶｈ"),
  ("HV", "Ƕ"),
  ("(h)", "⒣"),
  ("hv", "ƕ"),
  ("I", "ÌÍÎÏĨĪĬĮİƖƗǏȈȊɪᵻḬḮỈỊⒾꟾＩ"),
  ("i", "ìíîïĩīĭįıǐȉȋɨᴉᵢᵼᶖḭḯỉịⁱⓘｉ"),
  ("IJ", "Ĳ"),
  ("(i)", "⒤"),
  ("ij", "ĳ"),
  ("J", "ĴɈᴊⒿＪ"),
  ("j", "ĵǰȷɉɟʄʝⓙⱼｊ"),
  ("(j)", "⒥"),
  ("K", "ĶƘǨᴋḰḲḴⓀⱩꝀꝂꝄＫ"),
  ("k", "ķƙǩʞᶄḱḳḵⓚⱪꝁꝃꝅｋ"),
  ("(k)", "⒦"),
  ("L", "ĹĻĽĿŁȽʟᴌḶḸḺḼⓁⱠⱢꝆꝈꞀＬ"),
  ("l", "ĺļľŀłƚȴɫɬɭᶅḷḹḻḽⓛⱡꝇꝉꞁｌ"),
  ("LJ", "Ǉ"),
  ("LL", "Ỻ"),
  ("Lj", "ǈ"),
  ("(l)", "⒧"),
  ("lj", "ǉ"),
  ("ll", "ỻ"),
  ("ls", "ʪ"),
  ("lz", "ʫ"),
  ("M", "ƜᴍḾṀṂⓂⱮꟽꟿＭ"),
  ("m", "ɯɰɱᵯᶆḿṁṃⓜｍ"),
  ("(m)", "⒨"),
  ("N", "ÑŃŅŇŊƝǸȠɴᴎṄṆṈṊⓃＮ"),
  ("n", "ñńņňŉŋƞǹȵɲɳᵰᶇṅṇṉṋⁿⓝｎ"),
  ("NJ", "Ǌ"),
  ("Nj", "ǋ"),
  ("(n)", "⒩"),
  ("nj", "ǌ"),
  ("O", "ÒÓÔÕÖØŌŎŐƆƟƠǑǪǬǾȌȎȪȬȮȰᴏᴐṌṎṐṒỌỎỐỒỔỖỘỚỜỞỠỢⓄꝊꝌＯ"),
  ("o", "òóôõöøōŏőơǒǫǭǿȍȏȫȭȯȱɔɵᴖᴗᶗṍṏṑṓọỏốồổỗộớờởỡợₒⓞⱺꝋꝍｏ"),
  ("OE", "Œɶ"),
  ("OO", "Ꝏ"),
  ("OU", "Ȣᴕ"),
  ("(o)", "⒪"),
  ("oe", "œᴔ"),
  ("oo", "ꝏ"),
  ("ou", "ȣ"),
  ("P", "ƤᴘṔṖⓅⱣꝐꝒꝔＰ"),
  ("p", "ƥᵱᵽᶈṕṗⓟꝑꝓꝕꟼｐ"),
  ("(p)", "⒫"),
  ("Q", "ɊⓆꝖꝘＱ"),
  ("q", "ĸɋʠⓠꝗꝙｑ"),
  ("(q)", "⒬"),
  ("qp", "ȹ"),
  ("R", "ŔŖŘȐȒɌʀʁᴙᴚṘṚṜṞⓇⱤꝚꞂＲ"),
  ("r", "ŕŗřȑȓɍɼɽɾɿᵣᵲᵳᶉṙṛṝṟⓡꝛꞃｒ"),
  ("(r)", "⒭"),
  ("S", "ŚŜŞŠȘṠṢṤṦṨⓈꜱꞅＳ"),
  ("s", "śŝşšſșȿʂᵴᶊṡṣṥṧṩẜẝⓢꞄｓ"),
  ("SS", "ẞ"),
  ("(s)", "⒮"),
  ("ss", "ß"),
  ("st", "ﬆ"),
  ("T", "ŢŤŦƬƮȚȾᴛṪṬṮṰⓉꞆＴ"),
  ("t", "ţťŧƫƭțȶʇʈᵵṫṭṯṱẗⓣⱦｔ"),
  ("TH", "ÞꝦ"),
  ("TZ", "Ꜩ"),
  ("(t)", "⒯"),
  ("tc", "ʨ"),
  ("th", "þᵺꝧ"),
  ("ts", "ʦ"),
  ("tz", "ꜩ"),
  ("U", "ÙÚÛÜŨŪŬŮŰŲƯǓǕǗǙǛȔȖɄᴜᵾṲṴṶṸṺỤỦỨỪỬỮỰⓊＵ"),
  ("u", "ùúûüũūŭůűųưǔǖǘǚǜȕȗʉᵤᶙṳṵṷṹṻụủứừửữựⓤｕ"),
  ("(u)", "⒰"),
  ("ue", "ᵫ"),
  ("V", "ƲɅᴠṼṾỼⓋꝞꝨＶ"),
  ("v", "ʋʌᵥᶌṽṿⓥⱱⱴꝟｖ"),
  ("VY", "Ꝡ"),
  ("(v)", "⒱"),
  ("vy", "ꝡ"),
  ("W", "ŴǷᴡẀẂẄẆẈⓌⱲＷ"),
  ("w", "ŵƿʍẁẃẅẇẉẘⓦⱳｗ"),
  ("(w)", "⒲"),
  ("X", "ẊẌⓍＸ"),
  ("x", "ᶍẋẍₓⓧｘ"),
  ("(x)", "⒳"),
  ("Y", "ÝŶŸƳȲɎʏẎỲỴỶỸỾⓎＹ"),
  ("y", "ýÿŷƴȳɏʎẏẙỳỵỷỹỿⓨｙ"),
  ("(y)", "⒴"),
  ("Z", "ŹŻŽƵȜȤᴢẐẒẔⓏⱫꝢＺ"),
  ("z", "źżžƶȝȥɀʐʑᵶᶎẑẓẕⓩⱬꝣｚ"),
  ("(z)", "⒵"),
  ("0", "⁰₀⓪⓿０"),
  ("1", "¹₁①⓵❶➀➊１"),
  ("2", "²₂②⓶❷➁➋２"),
  ("3", "³₃③⓷❸➂➌３"),
  ("4", "⁴₄④⓸❹➃➍４"),
  ("5", "⁵₅⑤⓹❺➄➎５"),
  ("6", "⁶₆⑥⓺❻➅➏６"),
  ("7", "⁷₇⑦⓻❼➆➐７"),
  ("8", "⁸₈⑧⓼❽➇➑８"),
  ("9", "⁹₉⑨⓽❾➈➒９"),
  ("10", "⑩⓾❿➉➓"),
  ("11", "⑪⓫"),
  ("12", "⑫⓬"),
  ("13", "⑬⓭"),
  ("14", "⑭⓮"),
  ("15", "⑮⓯"),
  ("16", "⑯⓰"),
  ("17", "⑰⓱"),
  ("18", "⑱⓲"),
  ("19", "⑲⓳"),
  ("20", "⑳⓴"),
  ("1.", "⒈"),
  ("2.", "⒉"),
  ("3.", "⒊"),
  ("4.", "⒋"),
  ("5.", "⒌"),
  ("6.", "⒍"),
  ("7.", "⒎"),
  ("8.", "⒏"),
  ("9.", "⒐"),
  ("10.", "⒑"),
  ("11.", "⒒"),
  ("12.", "⒓"),
  ("13.", "⒔"),
  ("14.", "⒕"),
  ("15.", "⒖"),
  ("16.", "⒗"),
  ("17.", "⒘"),
  ("18.", "⒙"),
  ("19.", "⒚"),
  ("20.", "⒛"),
  ("(1)", "⑴"),
  ("(2)", "⑵"),
  ("(3)", "⑶"),
  ("(4)", "⑷"),
  ("(5)", "⑸"),
  ("(6)", "⑹"),
  ("(7)", "⑺"),
  ("(8)", "⑻"),
  ("(9)", "⑼"),
  ("(10)", "⑽"),
  ("(11)", "⑾"),
  ("(12)", "⑿"),
  ("(13)", "⒀"),
  ("(14)", "⒁"),
  ("(15)", "⒂"),
  ("(16)", "⒃"),
  ("(17)", "⒄"),
  ("(18)", "⒅"),
  ("(19)", "⒆"),
  ("(20)", "⒇")]

/-- The plain form of a character outside ASCII. -/
def asciiForm (c : Char) : Option String :=
  (asciiForms.find? fun e => e.2.toList.contains c).map Prod.fst

/-- A text in its plain form; what has none stays. -/
def foldToAscii (s : List Char) : List Char :=
  s.flatMap fun c =>
    if c.toNat < 0x80 then [c]
    else match asciiForm c with
      | some f => f.toList
      | none => [c]

end Catalog
