import Dialogue.Text.Basic

/-!
# Folding of domain names

Domain names do not tell apart upper and lower case, nor the forms that a letter has
for the sake of its width, its font or its place in a word. Folding writes each
character of a name in the one way that counts, which may be with several characters
or with none; a character that is none of the rows below stays as it is.

The rows follow the mapping of Unicode Technical Standard 46 in version 17.0, and are
in ascending order. Characters whose folded form could not be part of a host are not
among them, and neither are those of ASCII.
-/

namespace Dialogue.Domain

/-- The folded forms of neighbouring characters. -/
inductive FoldRow where
  /-- Every character, or every second one by `step`, from the first to the last has
  its folded form at the same distance. -/
  | shifted (first last step target : Nat)
  /-- All characters from the first to the last have one folded form. -/
  | same (first last : Nat) (image : String)
  /-- The folded forms of characters from the first on, between spaces. -/
  | each (first : Nat) (images : String)
  deriving Repr

/-- The folded form of a character that the row holds. -/
def FoldRow.image? (n : Nat) : FoldRow → Option Text
  | shifted first last step target =>
    if first ≤ n ∧ n ≤ last ∧ (n - first) % step = 0 then
      some [Char.ofNat (target + (n - first))]
    else none
  | same first last image =>
    if first ≤ n ∧ n ≤ last then some image.toList else none
  | each first images =>
    if first ≤ n ∧ n < first + images.length then
      (Text.fields (· == ' ') images.toList)[n - first]?
    else none

/-- The rows of the folding. -/
def foldRows : List FoldRow :=
  [.each 0xAA "a", .same 0xAD 0xAD "", .each 0xB2 "2 3", .each 0xB5 "μ",
    .each 0xB9 "1 o", .each 0xBC "1⁄4 1⁄2 3⁄4", .shifted 0xC0 0xD6 1 0xE0,
    .shifted 0xD8 0xDE 1 0xF8, .shifted 0x100 0x12E 2 0x101, .each 0x130 "i\u0307",
    .each 0x132 "ij ij ĵ", .each 0x136 "ķ", .shifted 0x139 0x13D 2 0x13A,
    .each 0x13F "l· l·", .shifted 0x141 0x147 2 0x142, .each 0x149 "ʼn",
    .shifted 0x14A 0x176 2 0x14B, .each 0x178 "ÿ", .shifted 0x179 0x17D 2 0x17A,
    .each 0x17F "s", .each 0x181 "ɓ ƃ", .each 0x184 "ƅ", .each 0x186 "ɔ ƈ",
    .each 0x189 "ɖ ɗ ƌ", .each 0x18E "ǝ ə ɛ ƒ", .each 0x193 "ɠ ɣ", .each 0x196 "ɩ ɨ ƙ",
    .each 0x19C "ɯ ɲ", .each 0x19F "ɵ", .shifted 0x1A0 0x1A4 2 0x1A1, .each 0x1A6 "ʀ ƨ",
    .each 0x1A9 "ʃ", .each 0x1AC "ƭ", .each 0x1AE "ʈ ư", .each 0x1B1 "ʊ ʋ ƴ",
    .each 0x1B5 "ƶ", .each 0x1B7 "ʒ ƹ", .each 0x1BC "ƽ", .same 0x1C4 0x1C6 "dž",
    .same 0x1C7 0x1C9 "lj", .same 0x1CA 0x1CC "nj", .shifted 0x1CD 0x1DB 2 0x1CE,
    .shifted 0x1DE 0x1EE 2 0x1DF, .same 0x1F1 0x1F3 "dz", .each 0x1F4 "ǵ",
    .each 0x1F6 "ƕ ƿ", .shifted 0x1F8 0x21E 2 0x1F9, .each 0x220 "ƞ",
    .shifted 0x222 0x232 2 0x223, .each 0x23A "ⱥ ȼ", .each 0x23D "ƚ ⱦ", .each 0x241 "ɂ",
    .each 0x243 "ƀ ʉ ʌ", .shifted 0x246 0x24E 2 0x247, .each 0x2B0 "h ɦ j r ɹ ɻ ʁ w y",
    .each 0x2E0 "ɣ l s x ʕ", .each 0x340 "\u0300 \u0301",
    .each 0x343 "\u0313 \u0308\u0301 ι", .same 0x34F 0x34F "", .each 0x370 "ͱ",
    .each 0x372 "ͳ", .each 0x374 "ʹ", .each 0x376 "ͷ", .each 0x37E "; ϳ",
    .each 0x386 "ά ·", .shifted 0x388 0x38A 1 0x3AD, .each 0x38C "ό", .each 0x38E "ύ ώ",
    .shifted 0x391 0x3A1 1 0x3B1, .shifted 0x3A3 0x3AB 1 0x3C3,
    .each 0x3CF "ϗ β θ υ ύ ϋ φ π", .shifted 0x3D8 0x3EE 2 0x3D9, .each 0x3F0 "κ ρ σ",
    .each 0x3F4 "θ ε", .each 0x3F7 "ϸ", .each 0x3F9 "σ ϻ", .shifted 0x3FD 0x3FF 1 0x37B,
    .shifted 0x400 0x40F 1 0x450, .shifted 0x410 0x42F 1 0x430,
    .shifted 0x460 0x480 2 0x461, .shifted 0x48A 0x4BE 2 0x48B, .each 0x4C0 "ӏ",
    .shifted 0x4C1 0x4CD 2 0x4C2, .shifted 0x4D0 0x52E 2 0x4D1,
    .shifted 0x531 0x556 1 0x561, .each 0x587 "եւ",
    .each 0x675 "\u0627\u0674 \u0648\u0674 \u06c7\u0674 \u064a\u0674",
    .each 0x958 "क\u093c ख\u093c ग\u093c ज\u093c ड\u093c ढ\u093c फ\u093c य\u093c",
    .each 0x9DC "ড\u09bc ঢ\u09bc", .each 0x9DF "য\u09bc", .each 0xA33 "ਲ\u0a3c",
    .each 0xA36 "ਸ\u0a3c", .each 0xA59 "ਖ\u0a3c ਗ\u0a3c ਜ\u0a3c", .each 0xA5E "ਫ\u0a3c",
    .each 0xB5C "ଡ\u0b3c ଢ\u0b3c", .each 0xE33 "\u0e4dา", .each 0xEB3 "\u0ecdາ",
    .each 0xEDC "ຫນ ຫມ", .each 0xF0C "་", .each 0xF43 "ག\u0fb7", .each 0xF4D "ཌ\u0fb7",
    .each 0xF52 "ད\u0fb7", .each 0xF57 "བ\u0fb7", .each 0xF5C "ཛ\u0fb7",
    .each 0xF69 "ཀ\u0fb5", .each 0xF73 "\u0f71\u0f72",
    .each 0xF75 "\u0f71\u0f74 \u0fb2\u0f80 \u0fb2\u0f71\u0f80 \u0fb3\u0f80",
    .each 0xF79 "\u0fb3\u0f71\u0f80", .each 0xF81 "\u0f71\u0f80",
    .each 0xF93 "\u0f92\u0fb7", .each 0xF9D "\u0f9c\u0fb7", .each 0xFA2 "\u0fa1\u0fb7",
    .each 0xFA7 "\u0fa6\u0fb7", .each 0xFAC "\u0fab\u0fb7", .each 0xFB9 "\u0f90\u0fb5",
    .shifted 0x10A0 0x10C5 1 0x2D00, .each 0x10C7 "ⴧ", .each 0x10CD "ⴭ",
    .each 0x10FC "ნ", .same 0x115F 0x1160 "", .shifted 0x13F8 0x13FD 1 0x13F0,
    .same 0x17B4 0x17B5 "", .same 0x180B 0x180F "",
    .each 0x1C80 "в д о с т т ъ ѣ ꙋ \u1c8a", .shifted 0x1C90 0x1CBA 1 0x10D0,
    .shifted 0x1CBD 0x1CBF 1 0x10FD, .each 0x1D2C "a æ b", .each 0x1D30 "d e ǝ",
    .shifted 0x1D33 0x1D3A 1 0x67, .each 0x1D3C "o ȣ p r t u w a ɐ ɑ ᴂ b d e ə ɛ ɜ g",
    .each 0x1D4F "k m ŋ o ɔ ᴖ ᴗ p t u ᴝ ɯ v ᴥ", .shifted 0x1D5D 0x1D5F 1 0x3B2,
    .each 0x1D60 "φ χ i r u v β γ ρ φ χ", .each 0x1D78 "н",
    .each 0x1D9B "ɒ c ɕ ð ɜ f ɟ ɡ ɥ", .shifted 0x1DA4 0x1DA6 1 0x268,
    .each 0x1DA7 "ᵻ ʝ ɭ ᶅ ʟ ɱ ɰ", .shifted 0x1DAE 0x1DB1 1 0x272,
    .each 0x1DB2 "ɸ ʂ ʃ ƫ ʉ ʊ ᴜ ʋ ʌ z", .shifted 0x1DBC 0x1DBE 1 0x290,
    .each 0x1DBF "θ", .shifted 0x1E00 0x1E94 2 0x1E01, .each 0x1E9A "aʾ ṡ",
    .each 0x1E9E "ß", .shifted 0x1EA0 0x1EFE 2 0x1EA1, .shifted 0x1F08 0x1F0F 1 0x1F00,
    .shifted 0x1F18 0x1F1D 1 0x1F10, .shifted 0x1F28 0x1F2F 1 0x1F20,
    .shifted 0x1F38 0x1F3F 1 0x1F30, .shifted 0x1F48 0x1F4D 1 0x1F40,
    .shifted 0x1F59 0x1F5F 2 0x1F51, .shifted 0x1F68 0x1F6F 1 0x1F60, .each 0x1F71 "ά",
    .each 0x1F73 "έ", .each 0x1F75 "ή", .each 0x1F77 "ί", .each 0x1F79 "ό",
    .each 0x1F7B "ύ", .each 0x1F7D "ώ",
    .each 0x1F80 "ἀι ἁι ἂι ἃι ἄι ἅι ἆι ἇι ἀι ἁι ἂι ἃι ἄι ἅι ἆι ἇι ἠι ἡι ἢι ἣι ἤι ἥι ἦι",
    .each 0x1F97 "ἧι ἠι ἡι ἢι ἣι ἤι ἥι ἦι ἧι ὠι ὡι ὢι ὣι ὤι ὥι ὦι ὧι ὠι ὡι ὢι ὣι ὤι ὥι",
    .each 0x1FAE "ὦι ὧι", .each 0x1FB2 "ὰι αι άι", .each 0x1FB7 "ᾶι ᾰ ᾱ ὰ ά αι",
    .each 0x1FBE "ι", .each 0x1FC2 "ὴι ηι ήι", .each 0x1FC7 "ῆι ὲ έ ὴ ή ηι",
    .each 0x1FD3 "ΐ", .each 0x1FD8 "ῐ ῑ ὶ ί", .each 0x1FE3 "ΰ",
    .each 0x1FE8 "ῠ ῡ ὺ ύ ῥ", .each 0x1FEF "`", .each 0x1FF2 "ὼι ωι ώι",
    .each 0x1FF7 "ῶι ὸ ό ὼ ώ ωι", .same 0x200B 0x200B "", .each 0x2011 "‐",
    .each 0x2033 "′′ ′′′", .each 0x2036 "‵‵ ‵‵‵", .each 0x203C "!!",
    .each 0x2057 "′′′′", .same 0x2060 0x2064 "", .same 0x206A 0x206F "",
    .each 0x2070 "0 i", .shifted 0x2074 0x2079 1 0x34, .each 0x207A "+ − = ( ) n",
    .shifted 0x2080 0x2089 1 0x30, .each 0x208A "+ − = ( )", .each 0x2090 "a e o x ə h",
    .shifted 0x2096 0x2099 1 0x6B, .each 0x209A "p s t", .each 0x20A8 "rs",
    .each 0x2102 "c °c", .each 0x2107 "ɛ", .each 0x2109 "°f g", .same 0x210B 0x210E "h",
    .each 0x210F "ħ i i l l", .each 0x2115 "n no", .shifted 0x2119 0x211B 1 0x70,
    .each 0x211C "r r", .each 0x2120 "sm tel tm", .each 0x2124 "z", .each 0x2126 "ω",
    .each 0x2128 "z", .each 0x212A "k å b c", .each 0x212F "e e f ⅎ m o",
    .shifted 0x2135 0x2138 1 0x5D0, .each 0x2139 "i", .each 0x213B "fax π γ γ π ∑",
    .each 0x2145 "d d e i j",
    .each 0x2150 "1⁄7 1⁄9 1⁄10 1⁄3 2⁄3 1⁄5 2⁄5 3⁄5 4⁄5 1⁄6 5⁄6 1⁄8 3⁄8 5⁄8 7⁄8 1⁄ i ii",
    .each 0x2162 "iii iv v vi vii viii ix x xi xii l c d m i ii iii iv v vi vii viii",
    .each 0x2178 "ix x xi xii l c d m", .each 0x2183 "ↄ", .each 0x2189 "0⁄3",
    .each 0x222C "∫∫ ∫∫∫", .each 0x222F "∮∮ ∮∮∮", .each 0x2329 "〈 〉",
    .shifted 0x2460 0x2468 1 0x31,
    .each 0x2469 "10 11 12 13 14 15 16 17 18 19 20 (1) (2) (3) (4) (5) (6) (7) (8) (9)",
    .each 0x247D "(10) (11) (12) (13) (14) (15) (16) (17) (18) (19) (20)",
    .each 0x249C "(a) (b) (c) (d) (e) (f) (g) (h) (i) (j) (k) (l) (m) (n) (o) (p) (q)",
    .each 0x24AD "(r) (s) (t) (u) (v) (w) (x) (y) (z)", .shifted 0x24B6 0x24CF 1 0x61,
    .shifted 0x24D0 0x24E9 1 0x61, .each 0x24EA "0", .each 0x2A0C "∫∫∫∫",
    .each 0x2A75 "== ===", .each 0x2ADC "⫝\u0338", .shifted 0x2C00 0x2C2F 1 0x2C30,
    .each 0x2C60 "ⱡ", .each 0x2C62 "ɫ ᵽ ɽ", .shifted 0x2C67 0x2C6B 2 0x2C68,
    .each 0x2C6D "ɑ ɱ ɐ ɒ", .each 0x2C72 "ⱳ", .each 0x2C75 "ⱶ", .each 0x2C7C "j v ȿ ɀ",
    .shifted 0x2C80 0x2CE2 2 0x2C81, .each 0x2CEB "ⳬ", .each 0x2CED "ⳮ",
    .each 0x2CF2 "ⳳ", .each 0x2D6F "ⵡ", .each 0x2E9F "母", .each 0x2EF3 "龟",
    .each 0x2F00 "一 丨 丶 丿 乙 亅 二 亠 人 儿 入 八 冂 冖 冫 几 凵 刀 力 勹 匕 匚 匸 十 卜 卩 厂 厶 又 口 囗 土 士 夂",
    .each 0x2F22 "夊 夕 大 女 子 宀 寸 小 尢 尸 屮 山 巛 工 己 巾 干 幺 广 廴 廾 弋 弓 彐 彡 彳 心 戈 戶 手 支 攴 文 斗",
    .each 0x2F44 "斤 方 无 日 曰 月 木 欠 止 歹 殳 毋 比 毛 氏 气 水 火 爪 父 爻 爿 片 牙 牛 犬 玄 玉 瓜 瓦 甘 生 用 田",
    .each 0x2F66 "疋 疒 癶 白 皮 皿 目 矛 矢 石 示 禸 禾 穴 立 竹 米 糸 缶 网 羊 羽 老 而 耒 耳 聿 肉 臣 自 至 臼 舌 舛",
    .each 0x2F88 "舟 艮 色 艸 虍 虫 血 行 衣 襾 見 角 言 谷 豆 豕 豸 貝 赤 走 足 身 車 辛 辰 辵 邑 酉 釆 里 金 長 門 阜",
    .each 0x2FAA "隶 隹 雨 靑 非 面 革 韋 韭 音 頁 風 飛 食 首 香 馬 骨 高 髟 鬥 鬯 鬲 鬼 魚 鳥 鹵 鹿 麥 麻 黃 黍 黑 黹",
    .each 0x2FCC "黽 鼎 鼓 鼠 鼻 齊 齒 龍 龜 龠", .each 0x3002 ".", .each 0x3036 "〒",
    .each 0x3038 "十 卄 卅", .each 0x309F "より", .each 0x30FF "コト",
    .each 0x3131 "ᄀ ᄁ ᆪ ᄂ ᆬ ᆭ", .shifted 0x3137 0x3139 1 0x1103,
    .shifted 0x313A 0x313F 1 0x11B0, .each 0x3140 "ᄚ", .shifted 0x3141 0x3143 1 0x1106,
    .each 0x3144 "ᄡ", .shifted 0x3145 0x314E 1 0x1109, .shifted 0x314F 0x3163 1 0x1161,
    .same 0x3164 0x3164 "", .each 0x3165 "ᄔ ᄕ ᇇ ᇈ ᇌ ᇎ ᇓ ᇗ ᇙ ᄜ ᇝ ᇟ ᄝ ᄞ ᄠ ᄢ ᄣ ᄧ ᄩ",
    .shifted 0x3178 0x317C 1 0x112B, .each 0x317D "ᄲ ᄶ ᅀ ᅇ ᅌ ᇱ ᇲ",
    .shifted 0x3184 0x3186 1 0x1157, .each 0x3187 "ᆄ ᆅ ᆈ ᆑ ᆒ ᆔ ᆞ ᆡ",
    .each 0x3192 "一 二 三 四 上 中 下 甲 乙 丙 丁 天 地 人",
    .each 0x3200 "(ᄀ) (ᄂ) (ᄃ) (ᄅ) (ᄆ) (ᄇ) (ᄉ) (ᄋ) (ᄌ) (ᄎ) (ᄏ) (ᄐ) (ᄑ) (ᄒ) (가) (나) (다)",
    .each 0x3211 "(라) (마) (바) (사) (아) (자) (차) (카) (타) (파) (하) (주) (오전) (오후)",
    .each 0x3220 "(一) (二) (三) (四) (五) (六) (七) (八) (九) (十) (月) (火) (水) (木) (金) (土) (日)",
    .each 0x3231 "(株) (有) (社) (名) (特) (財) (祝) (労) (代) (呼) (学) (監) (企) (資) (協) (祭) (休)",
    .each 0x3242 "(自) (至) 問 幼 文 箏",
    .each 0x3250 "pte 21 22 23 24 25 26 27 28 29 30 31 32 33 34 35 ᄀ ᄂ ᄃ",
    .shifted 0x3263 0x3265 1 0x1105, .each 0x3266 "ᄉ ᄋ ᄌ",
    .shifted 0x3269 0x326D 1 0x110E, .each 0x326E "가 나 다 라 마 바 사 아 자 차 카 타 파 하 참고 주의 우",
    .each 0x3280 "一 二 三 四 五 六 七 八 九 十 月 火 水 木 金 土 日 株 有 社 名 特 財 祝 労 秘 男 女 適 優 印 注 項 休",
    .each 0x32A2 "写 正 上 中 下 左 右 医 宗 学 監 企 資 協 夜 36 37 38 39 40 41 42 43 44 45 46 47 48",
    .each 0x32BE "49 50 1月 2月 3月 4月 5月 6月 7月 8月 9月 10月 11月 12月 hg erg ev ltd ア イ ウ エ オ",
    .each 0x32D5 "カ キ ク ケ コ サ シ ス セ ソ タ チ ツ テ ト", .shifted 0x32E4 0x32E9 1 0x30CA,
    .each 0x32EA "ヒ フ ヘ ホ", .shifted 0x32EE 0x32F2 1 0x30DE, .each 0x32F3 "ヤ ユ",
    .shifted 0x32F5 0x32FA 1 0x30E8, .shifted 0x32FB 0x32FE 1 0x30EF,
    .each 0x32FF "令和 アパート アルファ アンペア アール イニング インチ ウォン エスクード エーカー オンス オーム カイリ カラット カロリー",
    .each 0x330E "ガロン ガンマ ギガ ギニー キュリー ギルダー キロ キログラム キロメートル キロワット グラム グラムトン クルゼイロ クローネ",
    .each 0x331C "ケース コルナ コーポ サイクル サンチーム シリング センチ セント ダース デシ ドル トン ナノ ノット ハイツ パーセント",
    .each 0x332C "パーツ バーレル ピアストル ピクル ピコ ビル ファラッド フィート ブッシェル フラン ヘクタール ペソ ペニヒ ヘルツ ペンス",
    .each 0x333B "ページ ベータ ポイント ボルト ホン ポンド ホール ホーン マイクロ マイル マッハ マルク マンション ミクロン ミリ ミリバール",
    .each 0x334B "メガ メガトン メートル ヤード ヤール ユアン リットル リラ ルピー ルーブル レム レントゲン ワット 0点 1点 2点 3点",
    .each 0x335C "4点 5点 6点 7点 8点 9点 10点 11点 12点 13点 14点 15点 16点 17点 18点 19点 20点 21点",
    .each 0x336E "22点 23点 24点 hpa da au bar ov pc dm dm2 dm3 iu 平成 昭和 大正 明治 株式会社 pa na",
    .each 0x3382 "μa ma ka kb mb gb cal kcal pf nf μf μg mg kg hz khz mhz ghz thz μl",
    .each 0x3396 "ml dl kl fm nm μm mm cm km mm2 cm2 m2 km2 mm3 cm3 m3 km3 m∕s m∕s2 pa",
    .each 0x33AA "kpa mpa gpa rad rad∕s rad∕s2 ps ns μs ms pv nv μv mv kv mv pw nw μw",
    .each 0x33BD "mw kw mw kω mω", .each 0x33C3 "bq cc cd c∕kg",
    .each 0x33C8 "db gy ha hp in kk km kt lm ln log lx mb mil mol ph",
    .each 0x33D9 "ppm pr sr sv wb v∕m a∕m 1日 2日 3日 4日 5日 6日 7日 8日 9日 10日 11日 12日 13日",
    .each 0x33ED "14日 15日 16日 17日 18日 19日 20日 21日 22日 23日 24日 25日 26日 27日 28日 29日 30日",
    .each 0x33FE "31日 gal", .shifted 0xA640 0xA66C 2 0xA641,
    .shifted 0xA680 0xA69A 2 0xA681, .each 0xA69C "ъ ь",
    .shifted 0xA722 0xA72E 2 0xA723, .shifted 0xA732 0xA76E 2 0xA733, .each 0xA770 "ꝯ",
    .each 0xA779 "ꝺ", .each 0xA77B "ꝼ", .each 0xA77D "ᵹ",
    .shifted 0xA77E 0xA786 2 0xA77F, .each 0xA78B "ꞌ", .each 0xA78D "ɥ",
    .each 0xA790 "ꞑ", .each 0xA792 "ꞓ", .shifted 0xA796 0xA7A8 2 0xA797,
    .each 0xA7AA "ɦ ɜ ɡ ɬ ɪ", .each 0xA7B0 "ʞ ʇ ʝ ꭓ", .shifted 0xA7B4 0xA7C2 2 0xA7B5,
    .each 0xA7C4 "ꞔ ʂ ᶎ ꟈ", .each 0xA7C9 "ꟊ", .each 0xA7CB "ɤ",
    .shifted 0xA7CC 0xA7DA 2 0xA7CD, .each 0xA7DC "ƛ", .each 0xA7F1 "s c f q ꟶ",
    .each 0xA7F8 "ħ œ", .each 0xAB5C "ꜧ ꬷ ɫ ꭒ", .each 0xAB69 "ʍ",
    .shifted 0xAB70 0xABBF 1 0x13A0,
    .each 0xF900 "豈 更 車 賈 滑 串 句 龜 龜 契 金 喇 奈 懶 癩 羅 蘿 螺 裸 邏 樂 洛 烙 珞 落 酪 駱 亂 卵 欄 爛 蘭 鸞 嵐",
    .each 0xF922 "濫 藍 襤 拉 臘 蠟 廊 朗 浪 狼 郎 來 冷 勞 擄 櫓 爐 盧 老 蘆 虜 路 露 魯 鷺 碌 祿 綠 菉 錄 鹿 論 壟 弄",
    .each 0xF944 "籠 聾 牢 磊 賂 雷 壘 屢 樓 淚 漏 累 縷 陋 勒 肋 凜 凌 稜 綾 菱 陵 讀 拏 樂 諾 丹 寧 怒 率 異 北 磻 便",
    .each 0xF966 "復 不 泌 數 索 參 塞 省 葉 說 殺 辰 沈 拾 若 掠 略 亮 兩 凉 梁 糧 良 諒 量 勵 呂 女 廬 旅 濾 礪 閭 驪",
    .each 0xF988 "麗 黎 力 曆 歷 轢 年 憐 戀 撚 漣 煉 璉 秊 練 聯 輦 蓮 連 鍊 列 劣 咽 烈 裂 說 廉 念 捻 殮 簾 獵 令 囹",
    .each 0xF9AA "寧 嶺 怜 玲 瑩 羚 聆 鈴 零 靈 領 例 禮 醴 隸 惡 了 僚 寮 尿 料 樂 燎 療 蓼 遼 龍 暈 阮 劉 杻 柳 流 溜",
    .each 0xF9CC "琉 留 硫 紐 類 六 戮 陸 倫 崙 淪 輪 律 慄 栗 率 隆 利 吏 履 易 李 梨 泥 理 痢 罹 裏 裡 里 離 匿 溺 吝",
    .each 0xF9EE "燐 璘 藺 隣 鱗 麟 林 淋 臨 立 笠 粒 狀 炙 識 什 茶 刺 切 度 拓 糖 宅 洞 暴 輻 行 降 見 廓 兀 嗀",
    .each 0xFA10 "塚", .each 0xFA12 "晴", .each 0xFA15 "凞 猪 益 礼 神 祥 福 靖 精 羽",
    .each 0xFA20 "蘒", .each 0xFA22 "諸", .each 0xFA25 "逸 都",
    .each 0xFA2A "飯 飼 館 鶴 郞 隷 侮 僧 免 勉 勤 卑 喝 嘆 器 塀 墨 層 屮 悔 慨 憎 懲 敏 既 暑 梅 海 渚 漢 煮 爫 琢 碑",
    .each 0xFA4C "社 祉 祈 祐 祖 祝 禍 禎 穀 突 節 練 縉 繁 署 者 臭 艹 艹 著 褐 視 謁 謹 賓 贈 辶 逸 難 響 頻 恵 𤋮 舘",
    .each 0xFA70 "並 况 全 侀 充 冀 勇 勺 喝 啕 喙 嗢 塚 墳 奄 奔 婢 嬨 廒 廙 彩 徭 惘 慎 愈 憎 慠 懲 戴 揄 搜 摒 敖 晴",
    .each 0xFA92 "朗 望 杖 歹 殺 流 滛 滋 漢 瀞 煮 瞧 爵 犯 猪 瑱 甆 画 瘝 瘟 益 盛 直 睊 着 磌 窱 節 类 絛 練 缾 者 荒",
    .each 0xFAB4 "華 蝹 襁 覆 視 調 諸 請 謁 諾 諭 謹 變 贈 輸 遲 醙 鉶 陼 難 靖 韛 響 頋 頻 鬒 龜 𢡊 𢡄 𣏕 㮝 䀘 䀹 𥉉",
    .each 0xFAD6 "𥳐 𧻓 齃 龎", .each 0xFB00 "ff fi fl ffi ffl st st",
    .each 0xFB13 "մն մե մի վն մխ", .each 0xFB1D "\u05d9\u05b4",
    .each 0xFB1F "\u05f2\u05b7 \u05e2 \u05d0 \u05d3 \u05d4",
    .shifted 0xFB24 0xFB26 1 0x5DB,
    .each 0xFB27 "\u05e8 \u05ea + \u05e9\u05c1 \u05e9\u05c2 \u05e9\u05bc\u05c1",
    .each 0xFB2D "\u05e9\u05bc\u05c2 \u05d0\u05b7 \u05d0\u05b8 \u05d0\u05bc",
    .each 0xFB31 "\u05d1\u05bc \u05d2\u05bc \u05d3\u05bc \u05d4\u05bc \u05d5\u05bc",
    .each 0xFB36 "\u05d6\u05bc",
    .each 0xFB38 "\u05d8\u05bc \u05d9\u05bc \u05da\u05bc \u05db\u05bc \u05dc\u05bc",
    .each 0xFB3E "\u05de\u05bc", .each 0xFB40 "\u05e0\u05bc \u05e1\u05bc",
    .each 0xFB43 "\u05e3\u05bc \u05e4\u05bc",
    .each 0xFB46 "\u05e6\u05bc \u05e7\u05bc \u05e8\u05bc \u05e9\u05bc \u05ea\u05bc",
    .each 0xFB4B "\u05d5\u05b9 \u05d1\u05bf \u05db\u05bf \u05e4\u05bf \u05d0\u05dc",
    .each 0xFB50 "\u0671 \u0671", .same 0xFB52 0xFB55 "\u067b",
    .same 0xFB56 0xFB59 "\u067e", .same 0xFB5A 0xFB5D "\u0680",
    .same 0xFB5E 0xFB61 "\u067a", .same 0xFB62 0xFB65 "\u067f",
    .same 0xFB66 0xFB69 "\u0679", .same 0xFB6A 0xFB6D "\u06a4",
    .same 0xFB6E 0xFB71 "\u06a6", .same 0xFB72 0xFB75 "\u0684",
    .same 0xFB76 0xFB79 "\u0683", .same 0xFB7A 0xFB7D "\u0686",
    .same 0xFB7E 0xFB81 "\u0687",
    .each 0xFB82 "\u068d \u068d \u068c \u068c \u068e \u068e \u0688 \u0688 \u0698",
    .each 0xFB8B "\u0698 \u0691 \u0691", .same 0xFB8E 0xFB91 "\u06a9",
    .same 0xFB92 0xFB95 "\u06af", .same 0xFB96 0xFB99 "\u06b3",
    .same 0xFB9A 0xFB9D "\u06b1", .each 0xFB9E "\u06ba \u06ba",
    .same 0xFBA0 0xFBA3 "\u06bb", .each 0xFBA4 "\u06c0 \u06c0",
    .same 0xFBA6 0xFBA9 "\u06c1", .same 0xFBAA 0xFBAD "\u06be",
    .each 0xFBAE "\u06d2 \u06d2 \u06d3 \u06d3", .same 0xFBD3 0xFBD6 "\u06ad",
    .each 0xFBD7 "\u06c7 \u06c7 \u06c6 \u06c6 \u06c8 \u06c8 \u06c7\u0674 \u06cb \u06cb",
    .each 0xFBE0 "\u06c5 \u06c5 \u06c9 \u06c9", .same 0xFBE4 0xFBE7 "\u06d0",
    .each 0xFBE8 "\u0649 \u0649 \u0626\u0627 \u0626\u0627 \u0626\u06d5 \u0626\u06d5",
    .each 0xFBEE "\u0626\u0648 \u0626\u0648 \u0626\u06c7 \u0626\u06c7 \u0626\u06c6",
    .each 0xFBF3 "\u0626\u06c6 \u0626\u06c8 \u0626\u06c8",
    .same 0xFBF6 0xFBF8 "\u0626\u06d0", .same 0xFBF9 0xFBFB "\u0626\u0649",
    .same 0xFBFC 0xFBFF "\u06cc",
    .each 0xFC00 "\u0626\u062c \u0626\u062d \u0626\u0645 \u0626\u0649 \u0626\u064a",
    .each 0xFC05 "\u0628\u062c \u0628\u062d \u0628\u062e \u0628\u0645 \u0628\u0649",
    .each 0xFC0A "\u0628\u064a \u062a\u062c \u062a\u062d \u062a\u062e \u062a\u0645",
    .each 0xFC0F "\u062a\u0649 \u062a\u064a \u062b\u062c \u062b\u0645 \u062b\u0649",
    .each 0xFC14 "\u062b\u064a \u062c\u062d \u062c\u0645 \u062d\u062c \u062d\u0645",
    .each 0xFC19 "\u062e\u062c \u062e\u062d \u062e\u0645 \u0633\u062c \u0633\u062d",
    .each 0xFC1E "\u0633\u062e \u0633\u0645 \u0635\u062d \u0635\u0645 \u0636\u062c",
    .each 0xFC23 "\u0636\u062d \u0636\u062e \u0636\u0645 \u0637\u062d \u0637\u0645",
    .each 0xFC28 "\u0638\u0645 \u0639\u062c \u0639\u0645 \u063a\u062c \u063a\u0645",
    .each 0xFC2D "\u0641\u062c \u0641\u062d \u0641\u062e \u0641\u0645 \u0641\u0649",
    .each 0xFC32 "\u0641\u064a \u0642\u062d \u0642\u0645 \u0642\u0649 \u0642\u064a",
    .each 0xFC37 "\u0643\u0627 \u0643\u062c \u0643\u062d \u0643\u062e \u0643\u0644",
    .each 0xFC3C "\u0643\u0645 \u0643\u0649 \u0643\u064a \u0644\u062c \u0644\u062d",
    .each 0xFC41 "\u0644\u062e \u0644\u0645 \u0644\u0649 \u0644\u064a \u0645\u062c",
    .each 0xFC46 "\u0645\u062d \u0645\u062e \u0645\u0645 \u0645\u0649 \u0645\u064a",
    .each 0xFC4B "\u0646\u062c \u0646\u062d \u0646\u062e \u0646\u0645 \u0646\u0649",
    .each 0xFC50 "\u0646\u064a \u0647\u062c \u0647\u0645 \u0647\u0649 \u0647\u064a",
    .each 0xFC55 "\u064a\u062c \u064a\u062d \u064a\u062e \u064a\u0645 \u064a\u0649",
    .each 0xFC5A "\u064a\u064a \u0630\u0670 \u0631\u0670 \u0649\u0670",
    .each 0xFC64 "\u0626\u0631 \u0626\u0632 \u0626\u0645 \u0626\u0646 \u0626\u0649",
    .each 0xFC69 "\u0626\u064a \u0628\u0631 \u0628\u0632 \u0628\u0645 \u0628\u0646",
    .each 0xFC6E "\u0628\u0649 \u0628\u064a \u062a\u0631 \u062a\u0632 \u062a\u0645",
    .each 0xFC73 "\u062a\u0646 \u062a\u0649 \u062a\u064a \u062b\u0631 \u062b\u0632",
    .each 0xFC78 "\u062b\u0645 \u062b\u0646 \u062b\u0649 \u062b\u064a \u0641\u0649",
    .each 0xFC7D "\u0641\u064a \u0642\u0649 \u0642\u064a \u0643\u0627 \u0643\u0644",
    .each 0xFC82 "\u0643\u0645 \u0643\u0649 \u0643\u064a \u0644\u0645 \u0644\u0649",
    .each 0xFC87 "\u0644\u064a \u0645\u0627 \u0645\u0645 \u0646\u0631 \u0646\u0632",
    .each 0xFC8C "\u0646\u0645 \u0646\u0646 \u0646\u0649 \u0646\u064a \u0649\u0670",
    .each 0xFC91 "\u064a\u0631 \u064a\u0632 \u064a\u0645 \u064a\u0646 \u064a\u0649",
    .each 0xFC96 "\u064a\u064a \u0626\u062c \u0626\u062d \u0626\u062e \u0626\u0645",
    .each 0xFC9B "\u0626\u0647 \u0628\u062c \u0628\u062d \u0628\u062e \u0628\u0645",
    .each 0xFCA0 "\u0628\u0647 \u062a\u062c \u062a\u062d \u062a\u062e \u062a\u0645",
    .each 0xFCA5 "\u062a\u0647 \u062b\u0645 \u062c\u062d \u062c\u0645 \u062d\u062c",
    .each 0xFCAA "\u062d\u0645 \u062e\u062c \u062e\u0645 \u0633\u062c \u0633\u062d",
    .each 0xFCAF "\u0633\u062e \u0633\u0645 \u0635\u062d \u0635\u062e \u0635\u0645",
    .each 0xFCB4 "\u0636\u062c \u0636\u062d \u0636\u062e \u0636\u0645 \u0637\u062d",
    .each 0xFCB9 "\u0638\u0645 \u0639\u062c \u0639\u0645 \u063a\u062c \u063a\u0645",
    .each 0xFCBE "\u0641\u062c \u0641\u062d \u0641\u062e \u0641\u0645 \u0642\u062d",
    .each 0xFCC3 "\u0642\u0645 \u0643\u062c \u0643\u062d \u0643\u062e \u0643\u0644",
    .each 0xFCC8 "\u0643\u0645 \u0644\u062c \u0644\u062d \u0644\u062e \u0644\u0645",
    .each 0xFCCD "\u0644\u0647 \u0645\u062c \u0645\u062d \u0645\u062e \u0645\u0645",
    .each 0xFCD2 "\u0646\u062c \u0646\u062d \u0646\u062e \u0646\u0645 \u0646\u0647",
    .each 0xFCD7 "\u0647\u062c \u0647\u0645 \u0647\u0670 \u064a\u062c \u064a\u062d",
    .each 0xFCDC "\u064a\u062e \u064a\u0645 \u064a\u0647 \u0626\u0645 \u0626\u0647",
    .each 0xFCE1 "\u0628\u0645 \u0628\u0647 \u062a\u0645 \u062a\u0647 \u062b\u0645",
    .each 0xFCE6 "\u062b\u0647 \u0633\u0645 \u0633\u0647 \u0634\u0645 \u0634\u0647",
    .each 0xFCEB "\u0643\u0644 \u0643\u0645 \u0644\u0645 \u0646\u0645 \u0646\u0647",
    .each 0xFCF0 "\u064a\u0645 \u064a\u0647 \u0640\u064e\u0651 \u0640\u064f\u0651",
    .each 0xFCF4 "\u0640\u0650\u0651 \u0637\u0649 \u0637\u064a \u0639\u0649",
    .each 0xFCF8 "\u0639\u064a \u063a\u0649 \u063a\u064a \u0633\u0649 \u0633\u064a",
    .each 0xFCFD "\u0634\u0649 \u0634\u064a \u062d\u0649 \u062d\u064a \u062c\u0649",
    .each 0xFD02 "\u062c\u064a \u062e\u0649 \u062e\u064a \u0635\u0649 \u0635\u064a",
    .each 0xFD07 "\u0636\u0649 \u0636\u064a \u0634\u062c \u0634\u062d \u0634\u062e",
    .each 0xFD0C "\u0634\u0645 \u0634\u0631 \u0633\u0631 \u0635\u0631 \u0636\u0631",
    .each 0xFD11 "\u0637\u0649 \u0637\u064a \u0639\u0649 \u0639\u064a \u063a\u0649",
    .each 0xFD16 "\u063a\u064a \u0633\u0649 \u0633\u064a \u0634\u0649 \u0634\u064a",
    .each 0xFD1B "\u062d\u0649 \u062d\u064a \u062c\u0649 \u062c\u064a \u062e\u0649",
    .each 0xFD20 "\u062e\u064a \u0635\u0649 \u0635\u064a \u0636\u0649 \u0636\u064a",
    .each 0xFD25 "\u0634\u062c \u0634\u062d \u0634\u062e \u0634\u0645 \u0634\u0631",
    .each 0xFD2A "\u0633\u0631 \u0635\u0631 \u0636\u0631 \u0634\u062c \u0634\u062d",
    .each 0xFD2F "\u0634\u062e \u0634\u0645 \u0633\u0647 \u0634\u0647 \u0637\u0645",
    .each 0xFD34 "\u0633\u062c \u0633\u062d \u0633\u062e \u0634\u062c \u0634\u062d",
    .each 0xFD39 "\u0634\u062e \u0637\u0645 \u0638\u0645 \u0627\u064b \u0627\u064b",
    .each 0xFD50 "\u062a\u062c\u0645 \u062a\u062d\u062c \u062a\u062d\u062c",
    .each 0xFD53 "\u062a\u062d\u0645 \u062a\u062e\u0645 \u062a\u0645\u062c",
    .each 0xFD56 "\u062a\u0645\u062d \u062a\u0645\u062e \u062c\u0645\u062d",
    .each 0xFD59 "\u062c\u0645\u062d \u062d\u0645\u064a \u062d\u0645\u0649",
    .each 0xFD5C "\u0633\u062d\u062c \u0633\u062c\u062d \u0633\u062c\u0649",
    .each 0xFD5F "\u0633\u0645\u062d \u0633\u0645\u062d \u0633\u0645\u062c",
    .each 0xFD62 "\u0633\u0645\u0645 \u0633\u0645\u0645 \u0635\u062d\u062d",
    .each 0xFD65 "\u0635\u062d\u062d \u0635\u0645\u0645 \u0634\u062d\u0645",
    .each 0xFD68 "\u0634\u062d\u0645 \u0634\u062c\u064a \u0634\u0645\u062e",
    .each 0xFD6B "\u0634\u0645\u062e \u0634\u0645\u0645 \u0634\u0645\u0645",
    .each 0xFD6E "\u0636\u062d\u0649 \u0636\u062e\u0645 \u0636\u062e\u0645",
    .each 0xFD71 "\u0637\u0645\u062d \u0637\u0645\u062d \u0637\u0645\u0645",
    .each 0xFD74 "\u0637\u0645\u064a \u0639\u062c\u0645 \u0639\u0645\u0645",
    .each 0xFD77 "\u0639\u0645\u0645 \u0639\u0645\u0649 \u063a\u0645\u0645",
    .each 0xFD7A "\u063a\u0645\u064a \u063a\u0645\u0649 \u0641\u062e\u0645",
    .each 0xFD7D "\u0641\u062e\u0645 \u0642\u0645\u062d \u0642\u0645\u0645",
    .each 0xFD80 "\u0644\u062d\u0645 \u0644\u062d\u064a \u0644\u062d\u0649",
    .each 0xFD83 "\u0644\u062c\u062c \u0644\u062c\u062c \u0644\u062e\u0645",
    .each 0xFD86 "\u0644\u062e\u0645 \u0644\u0645\u062d \u0644\u0645\u062d",
    .each 0xFD89 "\u0645\u062d\u062c \u0645\u062d\u0645 \u0645\u062d\u064a",
    .each 0xFD8C "\u0645\u062c\u062d \u0645\u062c\u0645 \u0645\u062e\u062c",
    .each 0xFD8F "\u0645\u062e\u0645",
    .each 0xFD92 "\u0645\u062c\u062e \u0647\u0645\u062c \u0647\u0645\u0645",
    .each 0xFD95 "\u0646\u062d\u0645 \u0646\u062d\u0649 \u0646\u062c\u0645",
    .each 0xFD98 "\u0646\u062c\u0645 \u0646\u062c\u0649 \u0646\u0645\u064a",
    .each 0xFD9B "\u0646\u0645\u0649 \u064a\u0645\u0645 \u064a\u0645\u0645",
    .each 0xFD9E "\u0628\u062e\u064a \u062a\u062c\u064a \u062a\u062c\u0649",
    .each 0xFDA1 "\u062a\u062e\u064a \u062a\u062e\u0649 \u062a\u0645\u064a",
    .each 0xFDA4 "\u062a\u0645\u0649 \u062c\u0645\u064a \u062c\u062d\u0649",
    .each 0xFDA7 "\u062c\u0645\u0649 \u0633\u062e\u0649 \u0635\u062d\u064a",
    .each 0xFDAA "\u0634\u062d\u064a \u0636\u062d\u064a \u0644\u062c\u064a",
    .each 0xFDAD "\u0644\u0645\u064a \u064a\u062d\u064a \u064a\u062c\u064a",
    .each 0xFDB0 "\u064a\u0645\u064a \u0645\u0645\u064a \u0642\u0645\u064a",
    .each 0xFDB3 "\u0646\u062d\u064a \u0642\u0645\u062d \u0644\u062d\u0645",
    .each 0xFDB6 "\u0639\u0645\u064a \u0643\u0645\u064a \u0646\u062c\u062d",
    .each 0xFDB9 "\u0645\u062e\u064a \u0644\u062c\u0645 \u0643\u0645\u0645",
    .each 0xFDBC "\u0644\u062c\u0645 \u0646\u062c\u062d \u062c\u062d\u064a",
    .each 0xFDBF "\u062d\u062c\u064a \u0645\u062c\u064a \u0641\u0645\u064a",
    .each 0xFDC2 "\u0628\u062d\u064a \u0643\u0645\u0645 \u0639\u062c\u0645",
    .each 0xFDC5 "\u0635\u0645\u0645 \u0633\u062e\u064a \u0646\u062c\u064a",
    .each 0xFDF0 "\u0635\u0644\u06d2 \u0642\u0644\u06d2 \u0627\u0644\u0644\u0647",
    .each 0xFDF3 "\u0627\u0643\u0628\u0631 \u0645\u062d\u0645\u062f",
    .each 0xFDF5 "\u0635\u0644\u0639\u0645 \u0631\u0633\u0648\u0644",
    .each 0xFDF7 "\u0639\u0644\u064a\u0647 \u0648\u0633\u0644\u0645 \u0635\u0644\u0649",
    .each 0xFDFC "\u0631\u06cc\u0627\u0644", .same 0xFE00 0xFE0F "", .each 0xFE10 ", 、",
    .each 0xFE14 "; !", .each 0xFE17 "〖 〗",
    .each 0xFE31 "— – _ _ ( ) \x7b \x7d 〔 〕 【 】 《 》 〈 〉",
    .shifted 0xFE41 0xFE44 1 0x300C, .same 0xFE4D 0xFE4F "_", .each 0xFE50 ", 、",
    .each 0xFE54 ";", .each 0xFE57 "! — ( ) \x7b \x7d 〔 〕", .each 0xFE60 "& * + -",
    .each 0xFE66 "=", .each 0xFE69 "$", .each 0xFE71 "\u0640\u064b",
    .each 0xFE77 "\u0640\u064e", .each 0xFE79 "\u0640\u064f",
    .each 0xFE7B "\u0640\u0650", .each 0xFE7D "\u0640\u0651",
    .each 0xFE7F "\u0640\u0652 \u0621 \u0622 \u0622 \u0623 \u0623 \u0624 \u0624 \u0625",
    .each 0xFE88 "\u0625", .same 0xFE89 0xFE8C "\u0626", .each 0xFE8D "\u0627 \u0627",
    .same 0xFE8F 0xFE92 "\u0628", .each 0xFE93 "\u0629 \u0629",
    .same 0xFE95 0xFE98 "\u062a", .same 0xFE99 0xFE9C "\u062b",
    .same 0xFE9D 0xFEA0 "\u062c", .same 0xFEA1 0xFEA4 "\u062d",
    .same 0xFEA5 0xFEA8 "\u062e",
    .each 0xFEA9 "\u062f \u062f \u0630 \u0630 \u0631 \u0631 \u0632 \u0632",
    .same 0xFEB1 0xFEB4 "\u0633", .same 0xFEB5 0xFEB8 "\u0634",
    .same 0xFEB9 0xFEBC "\u0635", .same 0xFEBD 0xFEC0 "\u0636",
    .same 0xFEC1 0xFEC4 "\u0637", .same 0xFEC5 0xFEC8 "\u0638",
    .same 0xFEC9 0xFECC "\u0639", .same 0xFECD 0xFED0 "\u063a",
    .same 0xFED1 0xFED4 "\u0641", .same 0xFED5 0xFED8 "\u0642",
    .same 0xFED9 0xFEDC "\u0643", .same 0xFEDD 0xFEE0 "\u0644",
    .same 0xFEE1 0xFEE4 "\u0645", .same 0xFEE5 0xFEE8 "\u0646",
    .same 0xFEE9 0xFEEC "\u0647", .each 0xFEED "\u0648 \u0648 \u0649 \u0649",
    .same 0xFEF1 0xFEF4 "\u064a",
    .each 0xFEF5 "\u0644\u0622 \u0644\u0622 \u0644\u0623 \u0644\u0623 \u0644\u0625",
    .each 0xFEFA "\u0644\u0625 \u0644\u0627 \u0644\u0627", .same 0xFEFF 0xFEFF "",
    .each 0xFF01 "!", .shifted 0xFF02 0xFF06 2 0x22, .shifted 0xFF07 0xFF0E 1 0x27,
    .shifted 0xFF10 0xFF19 1 0x30, .each 0xFF1B ";", .each 0xFF1D "=",
    .shifted 0xFF21 0xFF3A 1 0x61, .shifted 0xFF3F 0xFF5B 1 0x5F,
    .each 0xFF5D "\x7d ~ ⦅ ⦆ . 「 」 、 ・ ヲ ァ ィ ゥ ェ ォ ャ ュ ョ ッ ー ア イ ウ エ オ カ キ ク ケ コ サ シ ス",
    .each 0xFF7E "セ ソ タ チ ツ テ ト", .shifted 0xFF85 0xFF8A 1 0x30CA,
    .each 0xFF8B "ヒ フ ヘ ホ", .shifted 0xFF8F 0xFF93 1 0x30DE, .each 0xFF94 "ヤ ユ",
    .shifted 0xFF96 0xFF9B 1 0x30E8, .each 0xFF9C "ワ ン \u3099 \u309a",
    .same 0xFFA0 0xFFA0 "", .each 0xFFA1 "ᄀ ᄁ ᆪ ᄂ ᆬ ᆭ", .shifted 0xFFA7 0xFFA9 1 0x1103,
    .shifted 0xFFAA 0xFFAF 1 0x11B0, .each 0xFFB0 "ᄚ", .shifted 0xFFB1 0xFFB3 1 0x1106,
    .each 0xFFB4 "ᄡ", .shifted 0xFFB5 0xFFBE 1 0x1109, .shifted 0xFFC2 0xFFC7 1 0x1161,
    .shifted 0xFFCA 0xFFCF 1 0x1167, .shifted 0xFFD2 0xFFD7 1 0x116D,
    .shifted 0xFFDA 0xFFDC 1 0x1173, .each 0xFFE0 "¢ £ ¬", .each 0xFFE4 "¦ ¥ ₩",
    .each 0xFFE8 "│", .shifted 0xFFE9 0xFFEC 1 0x2190, .each 0xFFED "■ ○",
    .shifted 0x10400 0x10427 1 0x10428, .shifted 0x104B0 0x104D3 1 0x104D8,
    .shifted 0x10570 0x1057A 1 0x10597, .shifted 0x1057C 0x1058A 1 0x105A3,
    .shifted 0x1058C 0x10592 1 0x105B3, .each 0x10594 "𐖻 𐖼", .each 0x10781 "ː ˑ æ ʙ ɓ",
    .each 0x10787 "ʣ ꭦ ʥ ʤ ɖ ɗ ᶑ ɘ ɞ ʩ ɤ ɢ ɠ ʛ ħ ʜ ɧ ʄ ʪ ʫ ɬ 𝼄 ꞎ ɮ 𝼅 ʎ 𝼆 ø ɶ ɷ q ɺ 𝼈 ɽ",
    .each 0x107A9 "ɾ ʀ ʨ ʦ ꭧ ʧ ʈ ⱱ", .each 0x107B2 "ʏ ʡ ʢ ʘ",
    .shifted 0x107B6 0x107B8 1 0x1C0, .each 0x107B9 "𝼊 𝼞",
    .shifted 0x10C80 0x10CB2 1 0x10CC0, .shifted 0x10D50 0x10D65 1 0x10D70,
    .shifted 0x118A0 0x118BF 1 0x118C0, .shifted 0x16E40 0x16E5F 1 0x16E60,
    .shifted 0x16EA0 0x16EB8 1 0x16EBB, .same 0x1BCA0 0x1BCA3 "",
    .shifted 0x1CCD6 0x1CCEF 1 0x61, .shifted 0x1CCF0 0x1CCF9 1 0x30,
    .each 0x1D15E "𝅗𝅥 𝅘𝅥 𝅘𝅥𝅮 𝅘𝅥𝅯 𝅘𝅥𝅰 𝅘𝅥𝅱 𝅘𝅥𝅲", .same 0x1D173 0x1D17A "",
    .each 0x1D1BB "𝆹𝅥 𝆺𝅥 𝆹𝅥𝅮 𝆺𝅥𝅮 𝆹𝅥𝅯 𝆺𝅥𝅯", .shifted 0x1D400 0x1D419 1 0x61,
    .shifted 0x1D41A 0x1D433 1 0x61, .shifted 0x1D434 0x1D44D 1 0x61,
    .shifted 0x1D44E 0x1D454 1 0x61, .shifted 0x1D456 0x1D467 1 0x69,
    .shifted 0x1D468 0x1D481 1 0x61, .shifted 0x1D482 0x1D49B 1 0x61, .each 0x1D49C "a",
    .each 0x1D49E "c d", .each 0x1D4A2 "g", .each 0x1D4A5 "j k",
    .shifted 0x1D4A9 0x1D4AC 1 0x6E, .shifted 0x1D4AE 0x1D4B5 1 0x73,
    .shifted 0x1D4B6 0x1D4B9 1 0x61, .each 0x1D4BB "f", .shifted 0x1D4BD 0x1D4C3 1 0x68,
    .shifted 0x1D4C5 0x1D4CF 1 0x70, .shifted 0x1D4D0 0x1D4E9 1 0x61,
    .shifted 0x1D4EA 0x1D503 1 0x61, .each 0x1D504 "a b",
    .shifted 0x1D507 0x1D50A 1 0x64, .shifted 0x1D50D 0x1D514 1 0x6A,
    .shifted 0x1D516 0x1D51C 1 0x73, .shifted 0x1D51E 0x1D537 1 0x61,
    .each 0x1D538 "a b", .shifted 0x1D53B 0x1D53E 1 0x64,
    .shifted 0x1D540 0x1D544 1 0x69, .each 0x1D546 "o", .shifted 0x1D54A 0x1D550 1 0x73,
    .shifted 0x1D552 0x1D56B 1 0x61, .shifted 0x1D56C 0x1D585 1 0x61,
    .shifted 0x1D586 0x1D59F 1 0x61, .shifted 0x1D5A0 0x1D5B9 1 0x61,
    .shifted 0x1D5BA 0x1D5D3 1 0x61, .shifted 0x1D5D4 0x1D5ED 1 0x61,
    .shifted 0x1D5EE 0x1D607 1 0x61, .shifted 0x1D608 0x1D621 1 0x61,
    .shifted 0x1D622 0x1D63B 1 0x61, .shifted 0x1D63C 0x1D655 1 0x61,
    .shifted 0x1D656 0x1D66F 1 0x61, .shifted 0x1D670 0x1D689 1 0x61,
    .shifted 0x1D68A 0x1D6A3 1 0x61, .each 0x1D6A4 "ı ȷ",
    .shifted 0x1D6A8 0x1D6B8 1 0x3B1, .each 0x1D6B9 "θ",
    .shifted 0x1D6BA 0x1D6C0 1 0x3C3, .each 0x1D6C1 "∇",
    .shifted 0x1D6C2 0x1D6D2 1 0x3B1, .each 0x1D6D3 "σ",
    .shifted 0x1D6D4 0x1D6DA 1 0x3C3, .each 0x1D6DB "∂ ε θ κ φ ρ π",
    .shifted 0x1D6E2 0x1D6F2 1 0x3B1, .each 0x1D6F3 "θ",
    .shifted 0x1D6F4 0x1D6FA 1 0x3C3, .each 0x1D6FB "∇",
    .shifted 0x1D6FC 0x1D70C 1 0x3B1, .each 0x1D70D "σ",
    .shifted 0x1D70E 0x1D714 1 0x3C3, .each 0x1D715 "∂ ε θ κ φ ρ π",
    .shifted 0x1D71C 0x1D72C 1 0x3B1, .each 0x1D72D "θ",
    .shifted 0x1D72E 0x1D734 1 0x3C3, .each 0x1D735 "∇",
    .shifted 0x1D736 0x1D746 1 0x3B1, .each 0x1D747 "σ",
    .shifted 0x1D748 0x1D74E 1 0x3C3, .each 0x1D74F "∂ ε θ κ φ ρ π",
    .shifted 0x1D756 0x1D766 1 0x3B1, .each 0x1D767 "θ",
    .shifted 0x1D768 0x1D76E 1 0x3C3, .each 0x1D76F "∇",
    .shifted 0x1D770 0x1D780 1 0x3B1, .each 0x1D781 "σ",
    .shifted 0x1D782 0x1D788 1 0x3C3, .each 0x1D789 "∂ ε θ κ φ ρ π",
    .shifted 0x1D790 0x1D7A0 1 0x3B1, .each 0x1D7A1 "θ",
    .shifted 0x1D7A2 0x1D7A8 1 0x3C3, .each 0x1D7A9 "∇",
    .shifted 0x1D7AA 0x1D7BA 1 0x3B1, .each 0x1D7BB "σ",
    .shifted 0x1D7BC 0x1D7C2 1 0x3C3, .each 0x1D7C3 "∂ ε θ κ φ ρ π ϝ ϝ",
    .shifted 0x1D7CE 0x1D7D7 1 0x30, .shifted 0x1D7D8 0x1D7E1 1 0x30,
    .shifted 0x1D7E2 0x1D7EB 1 0x30, .shifted 0x1D7EC 0x1D7F5 1 0x30,
    .shifted 0x1D7F6 0x1D7FF 1 0x30, .shifted 0x1E030 0x1E038 1 0x430,
    .shifted 0x1E039 0x1E03B 1 0x43A, .shifted 0x1E03C 0x1E046 1 0x43E,
    .each 0x1E047 "ы э ю ꚉ ә і ј ө ү ӏ", .shifted 0x1E051 0x1E059 1 0x430,
    .each 0x1E05A "к л о п с", .shifted 0x1E05F 0x1E064 1 0x443,
    .each 0x1E065 "ъ ы ґ і ѕ џ ҫ ꙑ ұ", .shifted 0x1E900 0x1E921 1 0x1E922,
    .each 0x1EE00 "\u0627 \u0628 \u062c \u062f",
    .each 0x1EE05 "\u0648 \u0632 \u062d \u0637 \u064a",
    .shifted 0x1EE0A 0x1EE0D 1 0x643,
    .each 0x1EE0E "\u0633 \u0639 \u0641 \u0635 \u0642 \u0631 \u0634 \u062a \u062b",
    .each 0x1EE17 "\u062e \u0630 \u0636 \u0638 \u063a \u066e \u06ba \u06a1 \u066f",
    .each 0x1EE21 "\u0628 \u062c", .each 0x1EE24 "\u0647", .each 0x1EE27 "\u062d",
    .each 0x1EE29 "\u064a", .shifted 0x1EE2A 0x1EE2D 1 0x643,
    .each 0x1EE2E "\u0633 \u0639 \u0641 \u0635 \u0642",
    .each 0x1EE34 "\u0634 \u062a \u062b \u062e", .each 0x1EE39 "\u0636",
    .each 0x1EE3B "\u063a", .each 0x1EE42 "\u062c", .each 0x1EE47 "\u062d",
    .each 0x1EE49 "\u064a", .each 0x1EE4B "\u0644",
    .each 0x1EE4D "\u0646 \u0633 \u0639", .each 0x1EE51 "\u0635 \u0642",
    .each 0x1EE54 "\u0634", .each 0x1EE57 "\u062e", .each 0x1EE59 "\u0636",
    .each 0x1EE5B "\u063a", .each 0x1EE5D "\u06ba", .each 0x1EE5F "\u066f",
    .each 0x1EE61 "\u0628 \u062c", .each 0x1EE64 "\u0647",
    .each 0x1EE67 "\u062d \u0637 \u064a \u0643",
    .each 0x1EE6C "\u0645 \u0646 \u0633 \u0639 \u0641 \u0635 \u0642",
    .each 0x1EE74 "\u0634 \u062a \u062b \u062e",
    .each 0x1EE79 "\u0636 \u0638 \u063a \u066e", .each 0x1EE7E "\u06a1",
    .each 0x1EE80 "\u0627 \u0628 \u062c \u062f \u0647 \u0648 \u0632 \u062d \u0637",
    .each 0x1EE89 "\u064a", .shifted 0x1EE8B 0x1EE8D 1 0x644,
    .each 0x1EE8E "\u0633 \u0639 \u0641 \u0635 \u0642 \u0631 \u0634 \u062a \u062b",
    .each 0x1EE97 "\u062e \u0630 \u0636 \u0638 \u063a",
    .each 0x1EEA1 "\u0628 \u062c \u062f",
    .each 0x1EEA5 "\u0648 \u0632 \u062d \u0637 \u064a",
    .shifted 0x1EEAB 0x1EEAD 1 0x644,
    .each 0x1EEAE "\u0633 \u0639 \u0641 \u0635 \u0642 \u0631 \u0634 \u062a \u062b",
    .each 0x1EEB7 "\u062e \u0630 \u0636 \u0638 \u063a",
    .each 0x1F101 "0, 1, 2, 3, 4, 5, 6, 7, 8, 9,",
    .each 0x1F110 "(a) (b) (c) (d) (e) (f) (g) (h) (i) (j) (k) (l) (m) (n) (o) (p) (q)",
    .each 0x1F121 "(r) (s) (t) (u) (v) (w) (x) (y) (z) 〔s〕 c r cd wz",
    .shifted 0x1F130 0x1F149 1 0x61, .each 0x1F14A "hv mv sd ss ppv wc",
    .each 0x1F16A "mc md mr", .each 0x1F190 "dj", .each 0x1F200 "ほか ココ サ",
    .each 0x1F210 "手 字 双 デ 二 多 解 天 交 映 無 料 前 後 再 新 初 終 生 販 声 吹 演 投 捕 一 三 遊 左 中 右 指 走 打",
    .each 0x1F232 "禁 空 合 満 有 月 申 割 営 配",
    .each 0x1F240 "〔本〕 〔三〕 〔二〕 〔安〕 〔点〕 〔打〕 〔盗〕 〔勝〕 〔敗〕", .each 0x1F250 "得 可",
    .shifted 0x1FBF0 0x1FBF9 1 0x30,
    .each 0x2F800 "丽 丸 乁 𠄢 你 侮 侻 倂 偺 備 僧 像 㒞 𠘺 免 兔 兤 具 𠔜 㒹 內 再 𠕋 冗 冤 仌 冬 况 𩇟 凵 刃 㓟 刻 剆",
    .each 0x2F822 "割 剷 㔕 勇 勉 勤 勺 包 匆 北 卉 卑 博 即 卽", .same 0x2F831 0x2F833 "卿",
    .each 0x2F834 "𠨬 灰 及 叟 𠭣 叫 叱 吆 咞 吸 呈 周 咢 哶 唐 啓 啣 善 善 喙 喫 喳 嗂 圖 嘆 圗 噑 噴 切 壮 城 埴 堍 型",
    .each 0x2F856 "堲 報 墬 𡓤 売 壷 夆 多 夢 奢 𡚨 𡛪 姬 娛 娧 姘 婦 㛮 㛼 嬈 嬾 嬾 𡧈 寃 寘 寧 寳 𡬘 寿 将 当 尢 㞁 屠",
    .each 0x2F878 "屮 峀 岍 𡷤 嵃 𡷦 嵮 嵫 嵼 巡 巢 㠯 巽 帨 帽 幩 㡢 𢆃 㡼 庰 庳 庶 廊 𪎒 廾 𢌱 𢌱 舁 弢 弢 㣇 𣊸 𦇚 形",
    .each 0x2F89A "彫 㣣 徚 忍 志 忹 悁 㤺 㤜 悔 𢛔 惇 慈 慌 慎 慌 慺 憎 憲 憤 憯 懞 懲 懶 成 戛 扝 抱 拔 捐 𢬌 挽 拼 捨",
    .each 0x2F8BC "掃 揤 𢯱 搢 揅 掩 㨮 摩 摾 撝 摷 㩬 敏 敬 𣀊 旣 書 晉 㬙 暑 㬈 㫤 冒 冕 最 暜 肭 䏙 朗 望 朡 杞 杓 𣏃",
    .each 0x2F8DE "㭉 柺 枅 桒 梅 𣑭 梎 栟 椔 㮝 楂 榣 槪 檨 𣚣 櫛 㰘 次 𣢧 歔 㱎 歲 殟 殺 殻 𣪍 𡴋 𣫺 汎 𣲼 沿 泍 汧 洖",
    .each 0x2F900 "派 海 流 浩 浸 涅 𣴞 洴 港 湮 㴳 滋 滇 𣻑 淹 潮 𣽞 𣾎 濆 瀹 瀞 瀛 㶖 灊 災 灷 炭 𠔥 煅 𤉣 熜 𤎫 爨 爵",
    .each 0x2F922 "牐 𤘈 犀 犕 𤜵 𤠔 獺 王 㺬 玥 㺸 㺸 瑇 瑜 瑱 璅 瓊 㼛 甤 𤰶 甾 𤲒 異 𢆟 瘐 𤾡 𤾸 𥁄 㿼 䀈 直 𥃳 𥃲 𥄙",
    .each 0x2F944 "𥄳 眞 真 真 睊 䀹 瞋 䁆 䂖 𥐝 硎 碌 磌 䃣 𥘦 祖 𥚚 𥛅 福 秫 䄯 穀 穊 穏 𥥼 𥪧 𥪧 竮 䈂 𥮫 篆 築 䈧 𥲀",
    .each 0x2F966 "糒 䊠 糨 糣 紀 𥾆 絣 䌁 緇 縂 繅 䌴 𦈨 𦉇 䍙 𦋙 罺 𦌾 羕 翺 者 𦓚 𦔣 聠 𦖨 聰 𣍟 䏕 育 脃 䐋 脾 媵 𦞧",
    .each 0x2F988 "𦞵 𣎓 𣎜 舁 舄 辞 䑫 芑 芋 芝 劳 花 芳 芽 苦 𦬼 若 茝 荣 莭 茣 莽 菧 著 荓 菊 菌 菜 𦰶 𦵫 𦳕 䔫 蓱 蓳",
    .each 0x2F9AA "蔖 𧏊 蕤 𦼬 䕝 䕡 𦾱 𧃒 䕫 虐 虜 虧 虩 蚩 蚈 蜎 蛢 蝹 蜨 蝫 螆 䗗 蟡 蠁 䗹 衠 衣 𧙧 裗 裞 䘵 裺 㒻 𧢮",
    .each 0x2F9CC "𧥦 䚾 䛇 誠 諭 變 豕 𧲨 貫 賁 贛 起 𧼯 𠠄 跋 趼 跰 𠣞 軔 輸 𨗒 𨗭 邔 郱 鄑 𨜮 鄛 鈸 鋗 鋘 鉼 鏹 鐕 𨯺",
    .each 0x2F9EE "開 䦕 閷 𨵷 䧦 雃 嶲 霣 𩅅 𩈚 䩮 䩶 韠 𩐊 䪲 𩒖 頋 頋 頩 𩖶 飢 䬳 餩 馧 駂 駾 䯎 𩬰 鬒 鱀 鳽 䳎 䳭 鵧",
    .each 0x2FA10 "𪃎 䳸 𪄅 𪈎 𪊑 麻 䵖 黹 黾 鼅 鼏 鼖 鼻 𪘀", .same 0xE0100 0xE01EF ""]

example : foldRows.length = 791 := by decide +kernel

/-- A character of a domain name, folded. -/
def foldChar (c : Char) : Text :=
  if c.toNat < 0x80 then [c.toLower]
  else (foldRows.findSome? (FoldRow.image? c.toNat)).getD [c]

/-- A domain name, folded. -/
def fold (name : Text) : Text :=
  name.flatMap foldChar

end Dialogue.Domain
