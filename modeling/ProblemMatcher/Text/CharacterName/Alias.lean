/-!
# Second names of characters

Control characters have no other names than these. Some characters have abbreviations, and some a
name that corrects their own.

A line gives the first code point and its name; after each slash comes the name of the next code
point, as the number of words that it begins with like the name before it, and its other words.
-/

namespace ProblemMatcher.Text

/-- All second names. -/
def aliasNames : String := "
  0000 NULL/0 START OF HEADING/2 TEXT/0 END OF TEXT/2 TRANSMISSION/0 ENQUIRY/0 ACKNOWLEDGE/0 ALERT
  0008 BACKSPACE/0 CHARACTER TABULATION/0 LINE FEED/1 TABULATION/0 FORM FEED/0 CARRIAGE RETURN
  000E SHIFT OUT/1 IN/0 DATA LINK ESCAPE/0 DEVICE CONTROL ONE/2 TWO/2 THREE/2 FOUR
  0015 NEGATIVE ACKNOWLEDGE/0 SYNCHRONOUS IDLE/0 END OF TRANSMISSION BLOCK/0 CANCEL/0 END OF MEDIUM
  001A SUBSTITUTE/0 ESCAPE/0 INFORMATION SEPARATOR FOUR/2 THREE/2 TWO/2 ONE/0 SP
  007F DELETE/0 PADDING CHARACTER/0 HIGH OCTET PRESET/0 BREAK PERMITTED HERE/0 NO BREAK HERE/0 INDEX
  0085 NEXT LINE/0 START OF SELECTED AREA/0 END OF SELECTED AREA/0 CHARACTER TABULATION SET
  0089 CHARACTER TABULATION WITH JUSTIFICATION/0 LINE TABULATION SET/0 PARTIAL LINE FORWARD
  008C PARTIAL LINE BACKWARD/0 REVERSE LINE FEED/0 SINGLE SHIFT TWO/2 THREE/0 DEVICE CONTROL STRING
  0091 PRIVATE USE ONE/2 TWO/0 SET TRANSMIT STATE/0 CANCEL CHARACTER/0 MESSAGE WAITING
  0096 START OF GUARDED AREA/0 END OF GUARDED AREA/0 START OF STRING
  0099 SINGLE GRAPHIC CHARACTER INTRODUCER/1 CHARACTER INTRODUCER/0 CONTROL SEQUENCE INTRODUCER
  009C STRING TERMINATOR/0 OPERATING SYSTEM COMMAND/0 PRIVACY MESSAGE/0 APPLICATION PROGRAM COMMAND
  00A0 NBSP
  00AD SHY
  01A2 LATIN CAPITAL LETTER GHA/1 SMALL LETTER GHA
  034F CGJ
  061C ALM
  0709 SYRIAC SUBLINEAR COLON SKEWED LEFT
  0CDE KANNADA LETTER LLLA
  0E9D LAO LETTER FO FON
  0E9F LAO LETTER FO FAY
  0EA3 LAO LETTER RO
  0EA5 LAO LETTER LO
  0FD0 TIBETAN MARK BKA- SHOG GI MGO RGYAN
  11EC HANGUL JONGSEONG YESIEUNG-KIYEOK/2 YESIEUNG-SSANGKIYEOK/2 SSANGYESIEUNG/2 YESIEUNG-KHIEUKH
  180B FVS1/0 FVS2/0 FVS3/0 MVS/0 FVS4
  200B ZWSP/0 ZWNJ/0 ZWJ/0 LRM/0 RLM
  202A LRE/0 RLE/0 PDF/0 LRO/0 RLO/0 NNBSP
  205F MMSP/0 WJ
  2066 LRI/0 RLI/0 FSI/0 PDI
  2118 WEIERSTRASS ELLIPTIC FUNCTION
  2448 MICR ON US SYMBOL/1 DASH SYMBOL
  2B7A LEFTWARDS TRIANGLE-HEADED ARROW WITH DOUBLE VERTICAL STROKE
  2B7C RIGHTWARDS TRIANGLE-HEADED ARROW WITH DOUBLE VERTICAL STROKE
  A015 YI SYLLABLE ITERATION MARK
  AA6E MYANMAR LETTER KHAMTI LLA
  FE00 VS1/0 VS2/0 VS3/0 VS4/0 VS5/0 VS6/0 VS7/0 VS8/0 VS9/0 VS10/0 VS11/0 VS12/0 VS13/0 VS14/0 VS15
  FE0F VS16
  FE18 PRESENTATION FORM FOR VERTICAL RIGHT WHITE LENTICULAR BRACKET
  FEFF BYTE ORDER MARK
  122D4 CUNEIFORM SIGN NU11 TENU/3 OVER NU11 BUR OVER BUR
  16E56 MEDEFAIDRIN CAPITAL LETTER H/3 NG
  16E76 MEDEFAIDRIN SMALL LETTER H/3 NG
  1B001 HENTAIGANA LETTER E-1
  1D0C5 BYZANTINE MUSICAL SYMBOL FTHORA SKLIRON CHROMA VASIS
  E0100 VS17/0 VS18/0 VS19/0 VS20/0 VS21/0 VS22/0 VS23/0 VS24/0 VS25/0 VS26/0 VS27/0 VS28/0 VS29
  E010D VS30/0 VS31/0 VS32/0 VS33/0 VS34/0 VS35/0 VS36/0 VS37/0 VS38/0 VS39/0 VS40/0 VS41/0 VS42
  E011A VS43/0 VS44/0 VS45/0 VS46/0 VS47/0 VS48/0 VS49/0 VS50/0 VS51/0 VS52/0 VS53/0 VS54/0 VS55
  E0127 VS56/0 VS57/0 VS58/0 VS59/0 VS60/0 VS61/0 VS62/0 VS63/0 VS64/0 VS65/0 VS66/0 VS67/0 VS68
  E0134 VS69/0 VS70/0 VS71/0 VS72/0 VS73/0 VS74/0 VS75/0 VS76/0 VS77/0 VS78/0 VS79/0 VS80/0 VS81
  E0141 VS82/0 VS83/0 VS84/0 VS85/0 VS86/0 VS87/0 VS88/0 VS89/0 VS90/0 VS91/0 VS92/0 VS93/0 VS94
  E014E VS95/0 VS96/0 VS97/0 VS98/0 VS99/0 VS100/0 VS101/0 VS102/0 VS103/0 VS104/0 VS105/0 VS106
  E015A VS107/0 VS108/0 VS109/0 VS110/0 VS111/0 VS112/0 VS113/0 VS114/0 VS115/0 VS116/0 VS117
  E0165 VS118/0 VS119/0 VS120/0 VS121/0 VS122/0 VS123/0 VS124/0 VS125/0 VS126/0 VS127/0 VS128
  E0170 VS129/0 VS130/0 VS131/0 VS132/0 VS133/0 VS134/0 VS135/0 VS136/0 VS137/0 VS138/0 VS139
  E017B VS140/0 VS141/0 VS142/0 VS143/0 VS144/0 VS145/0 VS146/0 VS147/0 VS148/0 VS149/0 VS150
  E0186 VS151/0 VS152/0 VS153/0 VS154/0 VS155/0 VS156/0 VS157/0 VS158/0 VS159/0 VS160/0 VS161
  E0191 VS162/0 VS163/0 VS164/0 VS165/0 VS166/0 VS167/0 VS168/0 VS169/0 VS170/0 VS171/0 VS172
  E019C VS173/0 VS174/0 VS175/0 VS176/0 VS177/0 VS178/0 VS179/0 VS180/0 VS181/0 VS182/0 VS183
  E01A7 VS184/0 VS185/0 VS186/0 VS187/0 VS188/0 VS189/0 VS190/0 VS191/0 VS192/0 VS193/0 VS194
  E01B2 VS195/0 VS196/0 VS197/0 VS198/0 VS199/0 VS200/0 VS201/0 VS202/0 VS203/0 VS204/0 VS205
  E01BD VS206/0 VS207/0 VS208/0 VS209/0 VS210/0 VS211/0 VS212/0 VS213/0 VS214/0 VS215/0 VS216
  E01C8 VS217/0 VS218/0 VS219/0 VS220/0 VS221/0 VS222/0 VS223/0 VS224/0 VS225/0 VS226/0 VS227
  E01D3 VS228/0 VS229/0 VS230/0 VS231/0 VS232/0 VS233/0 VS234/0 VS235/0 VS236/0 VS237/0 VS238
  E01DE VS239/0 VS240/0 VS241/0 VS242/0 VS243/0 VS244/0 VS245/0 VS246/0 VS247/0 VS248/0 VS249
  E01E9 VS250/0 VS251/0 VS252/0 VS253/0 VS254/0 VS255/0 VS256
  0000 NUL/0 SOH/0 STX/0 ETX/0 EOT/0 ENQ/0 ACK/0 BEL/0 BS/0 HORIZONTAL TABULATION/0 NEW LINE
  000B VERTICAL TABULATION/0 FF/0 CR/0 LOCKING-SHIFT ONE/1 ZERO/0 DLE/0 DC1/0 DC2/0 DC3/0 DC4/0 NAK
  0016 SYN/0 ETB/0 CAN/0 EOM/0 SUB/0 ESC/0 FILE SEPARATOR/0 GROUP SEPARATOR/0 RECORD SEPARATOR
  001F UNIT SEPARATOR
  007F DEL/0 PAD/0 HOP/0 BPH/0 NBH/0 IND/0 NEL/0 SSA/0 ESA/0 HORIZONTAL TABULATION SET
  0089 HORIZONTAL TABULATION WITH JUSTIFICATION/0 VERTICAL TABULATION SET/0 PARTIAL LINE DOWN/2 UP
  008D REVERSE INDEX/0 SINGLE-SHIFT-2/0 SINGLE-SHIFT-3/0 DCS/0 PRIVATE USE-1/1 USE-2/0 STS/0 CCH
  0095 MW/0 START OF PROTECTED AREA/0 END OF PROTECTED AREA/0 SOS/0 SGC/0 SCI/0 CSI/0 ST/0 OSC/0 PM
  009F APC
  FEFF BOM
  0009 HT/0 END OF LINE/0 VT
  000E SO/0 SI
  001C FS/0 GS/0 RS/0 US
  0088 HTS/0 HTJ/0 VTS/0 PLD/0 PLU/0 RI/0 SS2/0 SS3
  0091 PU1/0 PU2
  0096 SPA/0 EPA
  FEFF ZWNBSP
  0009 TAB/0 EOL
  000A LF
  000A NL"

end ProblemMatcher.Text
