import BindingStubs.Text.Basic

set_option autoImplicit false

/-! # Encodings with one octet for each character -/

namespace BindingStubs.Xml.Encoding

open Text

def normalLoop : (gap : Bool) → List Char → List Char
  | _, [] => []
  | gap, c :: rest =>
    if isAsciiLetter c || isAsciiDigit c || c == '.' then
      (if gap then ['_', asciiLower c] else [asciiLower c]) ++ normalLoop false rest
    else normalLoop true rest

def normalName (name : String) : String :=
  String.ofList (normalLoop false (name.toList.dropWhile fun c => !(isAsciiLetter c)))

def asciiNames : List String := listed "
a(nsi_x3(.4_19(68,86,)_4_1968,)scii,)cp367,cp65001,csascii,csiso2022jp,hz(,_gb,_gb_2312,gb,)i(bm367,
so(2022(_jp(,_1,_2,_2004,_3,_ext,)jp(,_1,_2,_2004,_3,_ext,))646_us,_(2022_jp(,_1,_2,_2004,_3,_ext,)
646.irv_1991,ir_6,)))u(8,s,s_ascii,tf(,8,8_ucs2,8_ucs4,_8,_8_sig,))"

/-- Encodings in which octets below 128 stand for other characters. -/
def foreignNames : List String := listed "
c(p(037,1026,1140,273,424,500,864,875,)sibm(037,1026,273,424,500,864,))ebcdic_cp_(be,ca,ch,he,nl,us,
wt,)ibm(037,039,1026,1140,273,424,500,864,)mac_arabic,mac_farsi,"

def multipleNames : List String := listed "
big5(,_hkscs,_tw,hkscs,)c(hinese,p1361,p932,p936,p949,p950,sbig5,siso2022kr,siso58gb231280,
sshiftjis,)euc(_(cn,jis2004,jis_2004,jisx0213,jp,kr,)cn,gb2312_cn,jis2004,jisx0213,jp,kr,)gb(18030(,
_2000,)2312(,_1980,_80,)k,)hkscs,iso(2022_kr,2022kr,_2022_kr,_ir_58,)jisx0213,johab,k(orean,s(_(
c_5601(,_1987,)x_1001,)c5601,x1001,))ms(1361,932,936,949,950,_kanji,kanji,)s(_jis(,_2004,x0213,)
hift(_jis(,_2004,x0213,)jis(,2004,x0213,))jis(,_2004,x0213,))u(16,32,7,_jis,hc,jis,nicode(
_1_1_utf_7,bigunmarked,littleunmarked,)tf(16,32,7,_(16(,_be,_le,be,le,)32(,_be,_le,be,le,)7,)))
x_mac_(japanese,korean,simp_chinese,trad_chinese,)"

def run (first last : Char) : String :=
  String.ofList ((List.range' first.toNat (last.toNat + 1 - first.toNat)).map Char.ofNat)

def controls : String := run '\u0080' '\u00a0'

def cyrillic : String :=
  "©юабцдефгхийклмнопярстужвьызшэщчъЮАБЦДЕФГХИЙКЛМНОПЯРСТУЖВЬЫЗШЭЩЧЪ"

def signs : String :=
  "°¢£§•¶ß®©™´¨≠ÆØ∞±≤≥¥µ∂∑∏π∫ªºΩæø¿¡¬√ƒ≈∆«»…\u00a0ÀÃÕŒœ–—“”‘’÷◊ÿŸ"

def frames : String :=
  "░▒▓│┤╡╢╖╕╣║╗╝╜╛┐└┴┬├─┼╞╟╚╔╩╦╠═╬╧╨╤╥╙╘╒╓╫╪┘┌█▄▌▐▀"

def formulas : String :=
  "αßΓπΣσµτΦΘΩδ∞φε∩≡±≥≤⌠⌡÷≈°∙·√\u207f²■\u00a0"

def accents : String :=
  "ÄÅÇÉÑÖÜáàâäãåçéèêëíìîïñóòôöõúùûü"

def western (sign : String) : List String := [
  "ÇüéâäàåçêëèïîìÄÅÉæÆôöòûùÿÖÜø£Ø×ƒáíóúñÑªº¿®¬½¼¡«»░▒▓│┤ÁÂÀ©╣║╗╝¢¥┐└┴┬├─┼ãÃ╚╔╩╦╠═╬¤ðÐÊËÈ", sign,
  "ÍÎÏ┘┌█▄¦Ì▀ÓßÔÒõÕµþÞÚÛÙýÝ¯´\u00ad±‗¾¶§÷¸°¨·¹³²■\u00a0"]

def central : String :=
  "żŔÁÂĂÄĹĆÇČÉĘËĚÍÎĎĐŃŇÓÔŐÖ×ŘŮÚŰÜÝŢßŕáâăäĺćçčéęëěíîďđńňóôőö÷řůúűüýţ˙"

def baltic : String :=
  "µ¶·ø¹ŗ»¼½¾æĄĮĀĆÄÅĘĒČÉŹĖĢĶĪĻŠŃŅÓŌÕÖ×ŲŁŚŪÜŻŽßąįāćäåęēčéźėģķīļšńņóōõö÷ųłśūüżž"

def thai : String := run 'ก' '\u0e3a' ++ "????" ++ run '฿' '๛' ++ "????"

def turkish : String :=
  String.join ["Ğ", run 'Ñ' 'Ü', "İŞ", run 'ß' 'ï', "ğ", run 'ñ' 'ü', "ışÿ"]

def tables : List (String × List String) := [
  ("arabic,asmo_708,csisolatinarabic,ecma_114,iso(8859_6,_(8859_6(,_1987,)ir_127,))",
    [controls, "???¤???????\u060c\u00ad?????????????\u061b???\u061f?",
      run '\u0621' '\u063a', "?????", run '\u0640' '\u0652', "?????????????"]),
  ("charmap,cp819,csisolatin1,i(bm819,so(8859,8859_1,_(8859_1(,_1987,)ir_100,)))l(1,atin(,1,_1,))
raw_unicode_escape,unicode_escape,",
    [run '\u0080' 'ÿ']),
  ("cp1006,",
    [controls, run '\u06f0' '\u06f9',
      "\u060c\u061b\u00ad\u061f\ufe81\ufe8d\ufe8e\ufe8e\ufe8f\ufe91\ufb56\ufb58\ufe93\ufe95",
      "\ufe97\ufb66\ufb68\ufe99\ufe9b\ufe9d\ufe9f\ufb7a\ufb7c\ufea1\ufea3\ufea5\ufea7\ufea9",
      "\ufb84\ufeab\ufead\ufb8c\ufeaf\ufb8a\ufeb1\ufeb3\ufeb5\ufeb7\ufeb9\ufebb\ufebd\ufebf",
      "\ufec1\ufec5", run '\ufec9' '\ufed1',
      "\ufed3\ufed5\ufed7\ufed9\ufedb\ufb92\ufb94\ufedd\ufedf\ufee0\ufee1\ufee3\ufb9e\ufee5",
      "\ufee7\ufe85\ufeed\ufba6\ufba8\ufba9\ufbaa\ufe80\ufe89\ufe8a\ufe8b\ufef1\ufef2\ufef3",
      "\ufbb0\ufbae\ufe7c\ufe7d"]),
  ("cp1051,hp_roman8,ibm1051,r8,roman8,",
    [controls,
      "ÀÂÈÊËÎÏ´ˋˆ¨˜ÙÛ₤¯Ýý°ÇçÑñ¡¿¤£¥§ƒ¢âêôûáéóúàèòùäëöüÅîØÆåíøæÄìÖÜÉïßÔÁÃãÐðÍÌÓÒÕõŠšÚŸÿÞþ·µ¶¾—¼½",
      "ªº«■»±?"]),
  ("cp1125,cp866u,ibm1125,ruscii,",
    [run 'А' 'п', frames, run 'р' 'я', "ЁёҐґЄєІіЇї·√№¤■\u00a0"]),
  ("cp1250,windows_1250,",
    ["€?‚?„…†‡?‰Š‹ŚŤŽŹ?‘’“”•–—?™š›śťžź\u00a0ˇ˘Ł¤Ą¦§¨©Ş«¬\u00ad®Ż°±˛ł´µ¶·¸ąş»Ľ˝ľ", central]),
  ("cp1251,windows_1251,",
    ["ЂЃ‚ѓ„…†‡€‰Љ‹ЊЌЋЏђ‘’“”•–—?™љ›њќћџ\u00a0ЎўЈ¤Ґ¦§Ё©Є«¬\u00ad®Ї°±Ііґµ¶·ё№є»јЅѕї", run 'А' 'я']),
  ("cp1252,windows_1252,",
    ["€?‚ƒ„…†‡ˆ‰Š‹Œ?Ž??‘’“”•–—˜™š›œ?žŸ", run '\u00a0' 'ÿ']),
  ("cp1253,windows_1253,",
    ["€?‚ƒ„…†‡?‰?‹?????‘’“”•–—?™?›????\u00a0΅Ά£¤¥¦§¨©?«¬\u00ad®―°±²³΄µ¶·ΈΉΊ»Ό½", run 'Ύ' 'Ρ',
      "?", run 'Σ' 'ώ', "?"]),
  ("cp1254,windows_1254,",
    ["€?‚ƒ„…†‡ˆ‰Š‹Œ????‘’“”•–—˜™š›œ??Ÿ", run '\u00a0' 'Ï', turkish]),
  ("cp1255,windows_1255,",
    ["€?‚ƒ„…†‡ˆ‰?‹?????‘’“”•–—˜™?›????\u00a0¡¢£₪¥¦§¨©×", run '«' '¹', "÷»¼½¾¿",
      run '\u05b0' '\u05b9', "?", run '\u05bb' '\u05c3', run '\u05f0' '\u05f4', "???????",
      run '\u05d0' '\u05ea', "??\u200e\u200f?"]),
  ("cp1256,windows_1256,",
    ["€\u067e‚ƒ„…†‡ˆ‰\u0679‹Œ\u0686\u0698\u0688\u06af‘’“”•–—\u06a9™\u0691›œ\u200c\u200d\u06ba",
      "\u00a0\u060c¢£¤¥¦§¨©\u06be", run '«' '¹', "\u061b»¼½¾\u061f\u06c1", run '\u0621' '\u0636',
      "×\u0637\u0638\u0639\u063a\u0640\u0641\u0642\u0643à\u0644â\u0645\u0646\u0647\u0648çèéêë",
      "\u0649\u064aîï\u064b\u064c\u064d\u064eô\u064f\u0650÷\u0651ù\u0652ûü\u200e\u200f\u06d2"]),
  ("cp1257,windows_1257,",
    ["€?‚?„…†‡?‰?‹?¨ˇ¸?‘’“”•–—?™?›?¯˛?\u00a0?¢£¤?¦§Ø©Ŗ«¬\u00ad®Æ°±²³´", baltic, "˙"]),
  ("cp1258,windows_1258,",
    ["€?‚ƒ„…†‡ˆ‰?‹Œ????‘’“”•–—˜™?›œ??Ÿ", run '\u00a0' 'Â',
      "ĂÄÅÆÇÈÉÊË\u0300ÍÎÏĐÑ\u0309ÓÔƠÖ×ØÙÚÛÜƯ\u0303ßàáâăäåæçèéêë\u0301íîïđñ\u0323óôơö÷øùúûüư₫ÿ"]),
  ("cp154,csptcp154,cyrillic_asian,pt154,ptcp154,",
    ["ҖҒӮғ„…ҶҮҲүҠӢҢҚҺҸҗ‘’“”•–—ҳҷҡӣңқһҹ\u00a0ЎўЈӨҘҰ§Ё©Ә«¬ӯ®Ҝ°ұІіҙө¶·ё№ә»јҪҫҝ", run 'А' 'я']),
  ("cp437,cspc8codepage437,ibm437,",
    ["ÇüéâäàåçêëèïîìÄÅÉæÆôöòûùÿÖÜ¢£¥₧ƒáíóúñÑªº¿⌐¬½¼¡«»", frames, formulas]),
  ("cp720,",
    ["\u0080\u0081éâ\u0084à\u0086çêëèïî\u008d\u008e\u008f\u0090\u0651\u0652ô¤\u0640ûù\u0621",
      "\u0622\u0623\u0624£", run '\u0625' '\u0635', "«»", frames, run '\u0636' '\u063a',
      "\u0641µ", run '\u0642' '\u064a', "≡", run '\u064b' '\u0650', "≈°∙·√\u207f²■\u00a0"]),
  ("cp737,",
    [run 'Α' 'Ρ', "ΣΤΥΦΧΨΩ", run 'α' 'ρ', "σςτυφχψ", frames,
      "ωάέήϊίόύϋώΆΈΉΊΌΎΏ±≥≤ΪΫ÷≈°∙·√\u207f²■\u00a0"]),
  ("cp775,cspc775baltic,ibm775,",
    ["ĆüéāäģåćłēŖŗīŹÄÅÉæÆōöĢ¢ŚśÖÜø£Ø×¤ĀĪóŻżź”¦©®¬½¼Ł«»░▒▓│┤ĄČĘĖ╣║╗╝ĮŠ┐└┴┬├─┼ŲŪ╚╔╩╦╠═╬Žąčęėįšųū",
      "ž┘┌█▄▌▐▀ÓßŌŃõÕµńĶķĻļņĒŅ’\u00ad±“¾¶§÷„°∙·¹³²■\u00a0"]),
  ("cp850,cspc850multilingual,ibm850,", western "ı"),
  ("cp852,cspcp852,ibm852,",
    ["ÇüéâäůćçłëŐőîŹÄĆÉĹĺôöĽľŚśÖÜŤťŁ×čáíóúĄąŽžĘę¬źČş«»░▒▓│┤ÁÂĚŞ╣║╗╝Żż┐└┴┬├─┼Ăă╚╔╩╦╠═╬¤đĐĎËďŇÍÎ",
      "ě┘┌█▄ŢŮ▀ÓßÔŃńňŠšŔÚŕŰýÝţ´\u00ad˝˛ˇ˘§÷¸°¨˙űŘř■\u00a0"]),
  ("cp855,csibm855,ibm855,",
    ["ђЂѓЃёЁєЄѕЅіІїЇјЈљЉњЊћЋќЌўЎџЏюЮъЪаАбБцЦдДеЕфФгГ«»░▒▓│┤хХиИ╣║╗╝йЙ┐└┴┬├─┼кК╚╔╩╦╠═╬¤лЛмМнНоО",
      "п┘┌█▄Пя▀ЯрРсСтТуУжЖвВьЬ№\u00adыЫзЗшШэЭщЩчЧ§■\u00a0"]),
  ("cp856,",
    [run '\u05d0' '\u05ea',
      "?£?×??????????®¬½¼?«»░▒▓│┤???©╣║╗╝¢¥┐└┴┬├─┼??╚╔╩╦╠═╬¤?????????┘┌█▄¦?▀??????µ???????¯´",
      "\u00ad±‗¾¶§÷¸°¨·¹³²■\u00a0"]),
  ("cp857,csibm857,ibm857,",
    ["ÇüéâäàåçêëèïîıÄÅÉæÆôöòûùİÖÜø£ØŞşáíóúñÑĞğ¿®¬½¼¡«»░▒▓│┤ÁÂÀ©╣║╗╝¢¥┐└┴┬├─┼ãÃ╚╔╩╦╠═╬¤ºªÊËÈ?ÍÎ",
      "Ï┘┌█▄¦Ì▀ÓßÔÒõÕµ?×ÚÛÙìÿ¯´\u00ad±?¾¶§÷¸°¨·¹³²■\u00a0"]),
  ("cp858,csibm858,ibm858,", western "€"),
  ("cp860,csibm860,ibm860,",
    ["ÇüéâãàÁçêÊèÍÔìÃÂÉÀÈôõòÚùÌÕÜ¢£Ù₧ÓáíóúñÑªº¿Ò¬½¼¡«»", frames, formulas]),
  ("cp861,cp_is,csibm861,ibm861,",
    ["ÇüéâäàåçêëèÐðÞÄÅÉæÆôöþûÝýÖÜø£Ø₧ƒáíóúÁÍÓÚ¿⌐¬½¼¡«»", frames, formulas]),
  ("cp862,cspc862latinhebrew,ibm862,",
    [run '\u05d0' '\u05ea', "¢£¥₧ƒáíóúñÑªº¿⌐¬½¼¡«»", frames, formulas]),
  ("cp863,csibm863,ibm863,",
    ["ÇüéâÂà¶çêëèïî‗À§ÉÈÊôËÏûù¤ÔÜ¢£ÙÛƒ¦´óú¨¸³¯Î⌐¬½¼¾«»", frames, formulas]),
  ("cp865,csibm865,ibm865,",
    ["ÇüéâäàåçêëèïîìÄÅÉæÆôöòûùÿÖÜø£Ø₧ƒáíóúñÑªº¿⌐¬½¼¡«¤", frames, formulas]),
  ("cp866,csibm866,ibm866,",
    [run 'А' 'п', frames, run 'р' 'я', "ЁёЄєЇїЎў°∙·√№¤■\u00a0"]),
  ("cp869,cp_gr,csibm869,ibm869,",
    ["??????Ά?·¬¦‘’Έ―ΉΊΪΌ??ΎΫ©Ώ²³ά£έήίϊΐόύΑΒΓΔΕΖΗ½ΘΙ«»░▒▓│┤ΚΛΜΝ╣║╗╝ΞΟ┐└┴┬├─┼ΠΡ╚╔╩╦╠═╬ΣΤΥΦΧΨΩαβ",
      "γ┘┌█▄δε▀", run 'ζ' 'ρ', "σςτ΄\u00ad±υφχ§ψ΅°¨ωϋΰώ■\u00a0"]),
  ("cp874,",
    ["€????…???????????‘’“”•–—????????\u00a0", thai]),
  ("csisolatin2,iso(8859_2,_(8859_2(,_1987,)ir_101,))l2,latin2,",
    [controls, "Ą˘Ł¤ĽŚ§¨ŠŞŤŹ\u00adŽŻ°ą˛ł´ľśˇ¸šşťź˝ž", central]),
  ("csisolatin3,iso(8859_3,_(8859_3(,_1988,)ir_109,))l3,latin3,",
    [controls,
      "Ħ˘£¤?Ĥ§¨İŞĞĴ\u00ad?Ż°ħ²³´µĥ·¸ışğĵ½?żÀÁÂ?ÄĊĈÇÈÉÊËÌÍÎÏ?ÑÒÓÔĠÖ×ĜÙÚÛÜŬŜßàáâ?äċĉçèéêëìíîï?ñòó",
      "ôġö÷ĝùúûüŭŝ˙"]),
  ("csisolatin4,iso(8859_4,_(8859_4(,_1988,)ir_110,))l4,latin4,",
    [controls,
      "ĄĸŖ¤ĨĻ§¨ŠĒĢŦ\u00adŽ¯°ą˛ŗ´ĩļˇ¸šēģŧŊžŋĀÁÂÃÄÅÆĮČÉĘËĖÍÎĪĐŅŌĶÔÕÖ×ØŲÚÛÜŨŪßāáâãäåæįčéęëėíîīđņōķ",
      "ôõö÷øųúûüũū˙"]),
  ("csisolatin5,iso(8859_9,_(8859_9(,_1989,)ir_148,))l5,latin5,",
    [run '\u0080' 'Ï', turkish]),
  ("csisolatin6,iso(8859_10,_(8859_10(,_1992,)ir_157,))l6,latin6,",
    [controls,
      "ĄĒĢĪĨĶ§ĻĐŠŦŽ\u00adŪŊ°ąēģīĩķ·ļđšŧž―ūŋĀÁÂÃÄÅÆĮČÉĘËĖÍÎÏÐŅŌÓÔÕÖŨØŲÚÛÜÝÞßāáâãäåæįčéęëėíîïðņōó",
      "ôõöũøųúûüýþĸ"]),
  ("csisolatincyrillic,cyrillic,iso(8859_5,_(8859_5(,_1988,)ir_144,))",
    [controls, run 'Ё' 'Ќ', "\u00ad", run 'Ў' 'я', "№", run 'ё' 'ќ', "§ўџ"]),
  ("csisolatingreek,ecma_118,elot_928,greek(,8,)iso(8859_7,_(8859_7(,_1987,)ir_126,))",
    [controls, "‘’£€₯¦§¨©\u037a«¬\u00ad?―°±²³΄΅Ά·ΈΉΊ»Ό½", run 'Ύ' 'Ρ', "?",
      run 'Σ' 'ώ', "?"]),
  ("csisolatinhebrew,hebrew,iso(8859_8,_(8859_8(,_1988,)ir_138,))",
    [controls, "?¢£¤¥¦§¨©×", run '«' '¹', "÷»¼½¾????????????????????????????????‗",
      run '\u05d0' '\u05ea', "??\u200e\u200f?"]),
  ("cskoi8r,koi8_r,",
    ["─│┌┐└┘├┤┬┴┼▀▄█▌▐░▒▓⌠■∙√≈≤≥\u00a0⌡°²·÷═║╒ё", run '╓' '╡', "Ё", run '╢' '╬', cyrillic]),
  ("iso(8859_11,_8859_11(,_2001,))thai,",
    [controls, thai]),
  ("iso8859_13,iso_8859_13,l7,latin7,", [controls, "”¢£¤„¦§Ø©Ŗ«¬\u00ad®Æ°±²³“", baltic, "’"]),
  ("iso(8859_14,_(8859_14(,_1998,)celtic,ir_199,))l8,latin8,",
    [controls, "Ḃḃ£ĊċḊ§Ẁ©ẂḋỲ\u00ad®ŸḞḟĠġṀṁ¶ṖẁṗẃṠỳẄẅṡ", run 'À' 'Ï',
      "ŴÑÒÓÔÕÖṪØÙÚÛÜÝŶ", run 'ß' 'ï', "ŵñòóôõöṫøùúûüýŷÿ"]),
  ("iso8859_15,iso_8859_15,l9,latin9,",
    [run '\u0080' '£', "€¥Š§š", run '©' '³', "Žµ¶·ž¹º»ŒœŸ", run '¿' 'ÿ']),
  ("iso(8859_16,_(8859_16(,_2001,)ir_226,))l10,latin10,",
    [controls, "ĄąŁ€„Š§š©Ș«Ź\u00adźŻ°±ČłŽ”¶·žčș»ŒœŸżÀÁÂĂÄĆ", run 'Æ' 'Ï',
      "ĐŃÒÓÔŐÖŚŰÙÚÛÜĘȚßàáâăäć", run 'æ' 'ï', "đńòóôőöśűùúûüęțÿ"]),
  ("iso_ir_166,tis(620,_620(,_(0,2529_(0,1,))))",
    [run '\u0080' '\u009f', "?", thai]),
  ("koi8_t,",
    ["қғ‚Ғ„…†‡?‰ҳ‹ҲҷҶ?Қ‘’“”•–—?™?›?????ӯӮё¤ӣ¦§???«¬\u00ad®?°±²Ё?Ӣ¶·?№?»???", cyrillic]),
  ("koi8_u,",
    ["─│┌┐└┘├┤┬┴┼▀▄█▌▐░▒▓⌠■∙√≈≤≥\u00a0⌡°²·÷═║╒ёє╔ії╗╘╙╚╛ґ╝╞╟╠╡ЁЄ╣ІЇ╦╧╨╩╪Ґ╬", cyrillic]),
  ("kz1048,kz_1048,rk1048,strk1048_2002,",
    ["ЂЃ‚ѓ„…†‡€‰Љ‹ЊҚҺЏђ‘’“”•–—?™љ›њқһџ\u00a0ҰұӘ¤Ө¦§Ё©Ғ«¬\u00ad®Ү°±Ііөµ¶·ё№ғ»әҢңү", run 'А' 'я']),
  ("mac(_centeuro,_latin2,centraleurope,latin2,)",
    ["ÄĀāÉĄÖÜáąČäčĆćéŹźĎíďĒēĖóėôöõúĚěü†°Ę£§•¶ß®©™ę¨≠ģĮįĪ≤≥īĶ∂∑łĻļĽľĹĺŅņŃ¬√ńŇ∆«»…\u00a0ňŐÕőŌ–—“",
      "”‘’÷◊ōŔŕŘ‹›řŖŗŠ‚„šŚśÁŤťÍŽžŪÓÔūŮÚůŰűŲųÝýķŻŁżĢˇ"]),
  ("mac_croatian,",
    [accents,
      "†°¢£§•¶ß®Š™´¨≠ŽØ∞±≤≥∆µ∂∑∏š∫ªºΩžø¿¡¬√ƒ≈Ć«Č…\u00a0ÀÃÕŒœĐ—“”‘’÷◊©⁄€‹›Æ»–·‚„‰ÂćÁčÈÍÎÏÌÓÔđÒÚ",
      "ÛÙıˆ˜¯πË˚¸Êæˇ"]),
  ("mac_cyrillic,maccyrillic,",
    [run 'А' 'Я', "†°Ґ£§•¶І®©™Ђђ≠Ѓѓ∞±≤≥іµґЈЄєЇїЉљЊњјЅ¬√ƒ≈∆«»…\u00a0ЋћЌќѕ–—“”‘’÷„ЎўЏџ№Ёёя",
      run 'а' 'ю', "€"]),
  ("mac_greek,macgreek,",
    ["Ä¹²É³ÖÜ΅àâä΄¨çéèêë£™îï•½‰ôö¦€ùûü†ΓΔΘΛΞΠß®©ΣΪ§≠°·Α±≤≥¥ΒΕΖΗΙΚΜΦΫΨΩάΝ¬ΟΡ≈Τ«»…\u00a0ΥΧΆΈœ–―“",
      "”‘’÷ΉΊΌΎέήίόΏύαβψδεφγηιξκλμνοπώρστθωςχυζϊϋΐΰ\u00ad"]),
  ("mac_iceland,maciceland,",
    [accents, "Ý", signs, "⁄€ÐðÞþý·‚„‰ÂÊÁËÈÍÎÏÌÓÔÒÚÛÙıˆ˜¯˘˙˚¸˝˛ˇ"]),
  ("mac(_roman,intosh,roman,)",
    [accents, "†", signs, "⁄€‹›ﬁﬂ‡·‚„‰ÂÊÁËÈÍÎÏÌÓÔÒÚÛÙıˆ˜¯˘˙˚¸˝˛ˇ"]),
  ("mac_romanian,",
    [accents,
      "†°¢£§•¶ß®©™´¨≠ĂȘ∞±≤≥¥µ∂∑∏π∫ªºΩăș¿¡¬√ƒ≈∆«»…\u00a0ÀÃÕŒœ–—“”‘’÷◊ÿŸ⁄€‹›Țț‡·‚„‰ÂÊÁËÈÍÎÏÌÓÔÒÚ",
      "ÛÙıˆ˜¯˘˙˚¸˝˛ˇ"]),
  ("mac_turkish,macturkish,",
    [accents, "†", signs, "ĞğİıŞş‡·‚„‰ÂÊÁËÈÍÎÏÌÓÔÒÚÛÙˆ˜¯˘˙˚¸˝˛ˇ"]),
  ("palmos,",
    ["€\u0081‚ƒ„…†‡ˆ‰Š‹Œ♦♣♥♠‘’“”•–—˜™š\u009bœ\u009d\u009eŸ", run '\u00a0' 'ÿ'])]

/-- Names in which no line can be written as a point. -/
def linedNames : List String := listed "
euc_(jis_2004,jisx0213,jp,kr,)hp_roman8,iso(2022_(jp(,_1,_2,_2004,_3,_ext,)kr,)8859_(1(0,1,3,4,5,6,)
2,3,4,5,6,7,8,9,))koi8_(r,t,u,)latin_1,mac_(arabic,croatian,cyrillic,farsi,greek,iceland,latin2,
roman(,ian,)turkish,)raw_unicode_escape,shift_jis(,_2004,x0213,)tis_620,u(nicode_escape,tf_(16,
16_be,16_le,32,32_be,32_le,7,8,8_sig,))"

inductive Named where
  | table (upper : List Char)
  | foreign
  | multiple
  /-- An encoding that refuses to read all octets. -/
  | refusing
  /-- An encoding that cannot read octets from 128 on. -/
  | narrow
  | unknown

def namedExactly (name : String) : Named :=
  if asciiNames.contains name then .table []
  else if foreignNames.contains name then .foreign
  else if multipleNames.contains name then .multiple
  else if name == "idna" || name == "undefined" then .refusing
  else if name == "punycode" then .narrow
  else match tables.find? fun entry => (listed entry.1).contains name with
    | some (_, upper) => .table (String.join upper).toList
    | none => .unknown

/-- Most names can also be written with points for lines. -/
def named (name : String) : Named :=
  let name := normalName name
  let lined := Text.replace name "." "_"
  match namedExactly name with
  | .unknown => if linedNames.contains lined then .unknown else namedExactly lined
  | found => found

def decodeOctet? (upper : List Char) (octet : UInt8) : Option Char :=
  if octet < 128 then some (Char.ofNat octet.toNat)
  else match upper[octet.toNat - 128]? with
    | some '?' | none => none
    | some c => some c

def decode? (upper : List Char) (octets : List UInt8) : Option (List Char) :=
  octets.mapM (decodeOctet? upper)

end BindingStubs.Xml.Encoding
