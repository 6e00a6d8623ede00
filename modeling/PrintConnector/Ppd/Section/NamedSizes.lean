import PrintConnector.Ppd.Length

/-! The sheet sizes that have a name.

Each row gives the keyword of a size, the name the cloud knows it by, its width
and height in a unit, and how it is shown.
-/

namespace PrintConnector.Ppd

open PrintConnector.Number

/-- A named sheet size. -/
structure NamedSize where
  keyword : String
  name : String
  unit : LengthUnit
  width : Decimal
  height : Decimal
  display : String
deriving DecidableEq, Repr

/-- The named sizes; no two share a keyword. -/
def namedSizes : List NamedSize := [
  ⟨"3x5", "NA_INDEX_3X5", .inches, 3.0, 5.0, "3x5"⟩,
  ⟨"4x6", "NA_INDEX_4X6", .inches, 4.0, 6.0, "4x6"⟩,
  ⟨"5x7", "NA_5X7", .inches, 5.0, 7.0, "5x7"⟩,
  ⟨"5x8", "NA_INDEX_5X8", .inches, 5.0, 8.0, "5x8"⟩,
  ⟨"6x9", "NA_6X9", .inches, 6.0, 9.0, "6x9"⟩,
  ⟨"6.5x9.5", "NA_C5", .inches, 6.5, 9.5, "6.5x9.5"⟩,
  ⟨"7x9", "NA_7X9", .inches, 7.0, 9.0, "7x9"⟩,
  ⟨"8x10", "NA_GOVT_LETTER", .inches, 8.0, 10.0, "8x10"⟩,
  ⟨"8x13", "NA_GOVT_LEGAL", .inches, 8.0, 13.0, "8x13"⟩,
  ⟨"9x11", "NA_9X11", .inches, 9.0, 11.0, "9x11"⟩,
  ⟨"10x11", "NA_10X11", .inches, 10.0, 11.0, "10x11"⟩,
  ⟨"10x13", "NA_10X13", .inches, 10.0, 13.0, "10x13"⟩,
  ⟨"10x14", "NA_10X14", .inches, 10.0, 14.0, "10x14"⟩,
  ⟨"10x15", "NA_10X15", .inches, 10.0, 15.0, "10x15"⟩,
  ⟨"11x12", "NA_11X12", .inches, 11.0, 12.0, "11x12"⟩,
  ⟨"11x14", "NA_EDP", .inches, 11.0, 14.0, "11x14"⟩,
  ⟨"11x15", "NA_11X15", .inches, 11.0, 15.0, "11x15"⟩,
  ⟨"11x17", "NA_LEDGER", .inches, 11.0, 17.0, "11x17"⟩,
  ⟨"12x18", "NA_ARCH_B", .inches, 12.0, 18.0, "12x18"⟩,
  ⟨"12x19", "NA_12X19", .inches, 12.0, 19.0, "12x19"⟩,
  ⟨"13x19", "NA_SUPER_B", .inches, 13.0, 19.0, "13x19"⟩,
  ⟨"EnvPersonal", "NA_PERSONAL", .inches, 3.625, 6.5, "EnvPersonal"⟩,
  ⟨"Monarch", "NA_MONARCH", .inches, 3.875, 7.5, "Monarch"⟩,
  ⟨"EnvMonarch", "NA_MONARCH", .inches, 3.875, 7.5, "Monarch"⟩,
  ⟨"Comm10", "NA_NUMBER_10", .inches, 4.125, 9.5, "Comm10"⟩,
  ⟨"EnvA2", "NA_A2", .inches, 4.375, 5.75, "EnvA2"⟩,
  ⟨"Env9", "NA_NUMBER_9", .inches, 3.875, 8.875, "Env9"⟩,
  ⟨"Env10", "NA_NUMBER_10", .inches, 4.125, 9.5, "Env10"⟩,
  ⟨"Env11", "NA_NUMBER_11", .inches, 4.5, 10.375, "Env11"⟩,
  ⟨"Env12", "NA_NUMBER_12", .inches, 4.75, 11.0, "Env12"⟩,
  ⟨"Env14", "NA_NUMBER_14", .inches, 5.0, 11.5, "Env14"⟩,
  ⟨"Statement", "NA_INVOICE", .inches, 5.5, 8.5, "Statement"⟩,
  ⟨"Executive", "NA_EXECUTIVE", .inches, 7.25, 10.5, "Executive"⟩,
  ⟨"Quarto", "NA_QUARTO", .inches, 8.5, 10.83, "Quarto"⟩,
  ⟨"EngQuatro", "CUSTOM", .inches, 8.0, 10.0, "English Quatro 8x10"⟩,
  ⟨"Letter", "NA_LETTER", .inches, 8.5, 11.0, "Letter"⟩,
  ⟨"LetterExtra", "NA_LETTER_EXTRA", .inches, 9.5, 12.0, "Letter Extra"⟩,
  ⟨"LetterPlus", "NA_LETTER_PLUS", .inches, 8.5, 12.69, "Letter Plus"⟩,
  ⟨"Legal", "NA_LEGAL", .inches, 8.5, 14.0, "Legal"⟩,
  ⟨"LegalExtra", "NA_LEGAL_EXTRA", .inches, 9.5, 15.0, "Legal Extra"⟩,
  ⟨"FanFoldGerman", "NA_FANFOLD_EUR", .inches, 8.5, 12.0, "FanFoldGerman"⟩,
  ⟨"Foolscap", "NA_FOOLSCAP", .inches, 8.5, 13.0, "Foolscap"⟩,
  ⟨"FanFoldGermanLegal", "NA_FOOLSCAP", .inches, 8.5, 13.0, "Fan Fold German Legal"⟩,
  ⟨"GovernmentLG", "NA_FOOLSCAP", .inches, 8.5, 13.0, "GovernmentLG"⟩,
  ⟨"SuperA", "NA_SUPER_A", .inches, 8.94, 14.0, "Super A"⟩,
  ⟨"SuperB", "NA_B_PLUS", .inches, 12.0, 19.17, "Super B"⟩,
  ⟨"Tabloid", "NA_LEDGER", .inches, 11.0, 17.0, "Tabloid"⟩,
  ⟨"Ledger", "NA_LEDGER", .inches, 11.0, 17.0, "Ledger"⟩,
  ⟨"ARCHA", "NA_ARCH_A", .inches, 9.0, 12.0, "Arch A"⟩,
  ⟨"ARCHB", "NA_ARCH_B", .inches, 12.0, 18.0, "Arch B"⟩,
  ⟨"ARCHC", "NA_ARCH_C", .inches, 18.0, 24.0, "Arch C"⟩,
  ⟨"ARCHD", "NA_ARCH_D", .inches, 24.0, 36.0, "Arch D"⟩,
  ⟨"ARCHE", "NA_ARCH_E", .inches, 36.0, 48.0, "Arch E"⟩,
  ⟨"AnsiC", "NA_C", .inches, 17.0, 22.0, "ANSI C"⟩,
  ⟨"AnsiD", "NA_D", .inches, 22.0, 34.0, "ANSI D"⟩,
  ⟨"AnsiE", "NA_E", .inches, 34.0, 44.0, "ANSI E"⟩,
  ⟨"AnsiF", "NA_F", .inches, 44.0, 68.0, "ANSI F"⟩,
  ⟨"F", "NA_F", .inches, 44.0, 68.0, "ANSI F"⟩,
  ⟨"roc16k", "ROC_16K", .inches, 7.75, 10.75, "16K (ROC)"⟩,
  ⟨"roc8k", "ROC_8K", .inches, 10.75, 15.5, "8K (ROC)"⟩,
  ⟨"PRC32K", "PRC_32K", .millimetres, 97.0, 151.0, "32K (PRC)"⟩,
  ⟨"EnvPRC1", "PRC_1", .millimetres, 102.0, 165.0, "EnvPRC1"⟩,
  ⟨"EnvPRC2", "PRC_2", .millimetres, 102.0, 176.0, "EnvPRC2"⟩,
  ⟨"EnvPRC4", "PRC_4", .millimetres, 110.0, 208.0, "EnvPRC4"⟩,
  ⟨"EnvPRC5", "PRC_5", .millimetres, 110.0, 220.0, "EnvPRC5"⟩,
  ⟨"EnvPRC8", "PRC_8", .millimetres, 120.0, 309.0, "EnvPRC8"⟩,
  ⟨"EnvPRC6", "PRC_6", .millimetres, 120.0, 230.0, "EnvPRC6"⟩,
  ⟨"EnvPRC3", "PRC_3", .millimetres, 125.0, 176.0, "EnvPRC3"⟩,
  ⟨"PRC16K", "PRC_16K", .millimetres, 146.0, 215.0, "PRC16K"⟩,
  ⟨"EnvPRC7", "PRC_7", .millimetres, 160.0, 230.0, "EnvPRC7"⟩,
  ⟨"A0", "ISO_A0", .millimetres, 841.0, 1189.0, "A0"⟩,
  ⟨"A1", "ISO_A1", .millimetres, 594.0, 841.0, "A1"⟩,
  ⟨"A2", "ISO_A2", .millimetres, 420.0, 594.0, "A2"⟩,
  ⟨"A3", "ISO_A3", .millimetres, 297.0, 420.0, "A3"⟩,
  ⟨"A3Extra", "ISO_A3_EXTRA", .millimetres, 322.0, 445.0, "A3 Extra"⟩,
  ⟨"A4", "ISO_A4", .millimetres, 210.0, 297.0, "A4"⟩,
  ⟨"A4Extra", "ISO_A4_EXTRA", .millimetres, 235.5, 322.3, "A4 Extra"⟩,
  ⟨"A4Tab", "ISO_A4_TAB", .millimetres, 225.0, 297.0, "A4 Tab"⟩,
  ⟨"A5", "ISO_A5", .millimetres, 148.0, 210.0, "A5"⟩,
  ⟨"A5Extra", "ISO_A5_EXTRA", .millimetres, 174.0, 235.0, "A5 Extra"⟩,
  ⟨"A6", "ISO_A6", .millimetres, 105.0, 148.0, "A6"⟩,
  ⟨"A7", "ISO_A7", .millimetres, 74.0, 105.0, "A7"⟩,
  ⟨"A8", "ISO_A8", .millimetres, 52.0, 74.0, "A8"⟩,
  ⟨"A9", "ISO_A9", .millimetres, 37.0, 52.0, "A9"⟩,
  ⟨"A10", "ISO_A10", .millimetres, 26.0, 37.0, "A10"⟩,
  ⟨"ISOB0", "ISO_B0", .millimetres, 1000.0, 1414.0, "B0 (ISO)"⟩,
  ⟨"ISOB1", "ISO_B1", .millimetres, 707.0, 1000.0, "B1 (ISO)"⟩,
  ⟨"ISOB2", "ISO_B2", .millimetres, 500.0, 707.0, "B2 (ISO)"⟩,
  ⟨"ISOB3", "ISO_B3", .millimetres, 353.0, 500.0, "B3 (ISO)"⟩,
  ⟨"ISOB4", "ISO_B4", .millimetres, 250.0, 353.0, "B4 (ISO)"⟩,
  ⟨"ISOB5", "ISO_B5", .millimetres, 176.0, 250.0, "B5 (ISO)"⟩,
  ⟨"EnvISOB5", "ISO_B5", .millimetres, 176.0, 250.0, "B5 Envelope (ISO)"⟩,
  ⟨"ISOB5Extra", "ISO_B5_EXTRA", .millimetres, 201.0, 276.0, "B5 Extra (ISO)"⟩,
  ⟨"ISOB6", "ISO_B6", .millimetres, 125.0, 176.0, "B6 (ISO)"⟩,
  ⟨"ISOB7", "ISO_B7", .millimetres, 88.0, 125.0, "B7 (ISO)"⟩,
  ⟨"ISOB8", "ISO_B8", .millimetres, 62.0, 88.0, "B8 (ISO)"⟩,
  ⟨"ISOB9", "ISO_B9", .millimetres, 44.0, 62.0, "B9 (ISO)"⟩,
  ⟨"ISOB10", "ISO_B10", .millimetres, 31.0, 44.0, "B10 (ISO)"⟩,
  ⟨"EnvC0", "ISO_C0", .millimetres, 917.0, 1297.0, "C0 (ISO)"⟩,
  ⟨"EnvC1", "ISO_C1", .millimetres, 648.0, 917.0, "C1 (ISO)"⟩,
  ⟨"EnvC2", "ISO_C2", .millimetres, 458.0, 648.0, "C2 (ISO)"⟩,
  ⟨"EnvC3", "ISO_C3", .millimetres, 324.0, 458.0, "C3 (ISO)"⟩,
  ⟨"EnvC4", "ISO_C4", .millimetres, 229.0, 324.0, "C4 (ISO)"⟩,
  ⟨"EnvC5", "ISO_C5", .millimetres, 162.0, 229.0, "C5 (ISO)"⟩,
  ⟨"EnvC6", "ISO_C6", .millimetres, 114.0, 162.0, "C6 (ISO)"⟩,
  ⟨"EnvC65", "ISO_C6C5", .millimetres, 114.0, 229.0, "C6c5 (ISO)"⟩,
  ⟨"EnvC7", "ISO_C7", .millimetres, 81.0, 114.0, "C7 (ISO)"⟩,
  ⟨"EnvDL", "ISO_DL", .millimetres, 110.0, 220.0, "DL Envelope"⟩,
  ⟨"DLEnv", "ISO_DL", .millimetres, 110.0, 220.0, "DL Envelope"⟩,
  ⟨"RA0", "ISO_RA0", .millimetres, 860.0, 1220.0, "RA0"⟩,
  ⟨"RA1", "ISO_RA1", .millimetres, 610.0, 860.0, "RA1"⟩,
  ⟨"RA2", "ISO_RA2", .millimetres, 430.0, 610.0, "RA2"⟩,
  ⟨"RA3", "CUSTOM", .millimetres, 305.0, 430.0, "RA3"⟩,
  ⟨"RA4", "CUSTOM", .millimetres, 215.0, 305.0, "RA4"⟩,
  ⟨"SRA0", "ISO_SRA0", .millimetres, 900.0, 1280.0, "SRA0"⟩,
  ⟨"SRA1", "ISO_SRA1", .millimetres, 640.0, 900.0, "SRA1"⟩,
  ⟨"SRA2", "ISO_SRA2", .millimetres, 450.0, 640.0, "SRA2"⟩,
  ⟨"SRA3", "CUSTOM", .millimetres, 320.0, 450.0, "SRA3"⟩,
  ⟨"SRA4", "CUSTOM", .millimetres, 225.0, 320.0, "SRA4"⟩,
  ⟨"JISB0", "JIS_B0", .millimetres, 1030.0, 1456.0, "B0 (JIS)"⟩,
  ⟨"B0JIS", "JIS_B0", .millimetres, 1030.0, 1456.0, "B0 (JIS)"⟩,
  ⟨"B0", "JIS_B0", .millimetres, 1030.0, 1456.0, "B0 (JIS)"⟩,
  ⟨"JISB1", "JIS_B1", .millimetres, 728.0, 1030.0, "B1 (JIS)"⟩,
  ⟨"B1JIS", "JIS_B1", .millimetres, 728.0, 1030.0, "B1 (JIS)"⟩,
  ⟨"B1", "JIS_B1", .millimetres, 728.0, 1030.0, "B1 (JIS)"⟩,
  ⟨"JISB2", "JIS_B2", .millimetres, 515.0, 728.0, "B2 (JIS)"⟩,
  ⟨"B2JIS", "JIS_B2", .millimetres, 515.0, 728.0, "B2 (JIS)"⟩,
  ⟨"B2", "JIS_B2", .millimetres, 515.0, 728.0, "B2 (JIS)"⟩,
  ⟨"JISB3", "JIS_B3", .millimetres, 364.0, 515.0, "B3 (JIS)"⟩,
  ⟨"B3JIS", "JIS_B3", .millimetres, 364.0, 515.0, "B3 (JIS)"⟩,
  ⟨"B3", "JIS_B3", .millimetres, 364.0, 515.0, "B3 (JIS)"⟩,
  ⟨"JISB4", "JIS_B4", .millimetres, 257.0, 364.0, "B4 (JIS)"⟩,
  ⟨"B4JIS", "JIS_B4", .millimetres, 257.0, 364.0, "B4 (JIS)"⟩,
  ⟨"B4", "JIS_B4", .millimetres, 257.0, 364.0, "B4 (JIS)"⟩,
  ⟨"JISB5", "JIS_B5", .millimetres, 182.0, 257.0, "B5 (JIS)"⟩,
  ⟨"B5JIS", "JIS_B5", .millimetres, 182.0, 257.0, "B5 (JIS)"⟩,
  ⟨"B5", "JIS_B5", .millimetres, 182.0, 257.0, "B5 (JIS)"⟩,
  ⟨"JISB6", "JIS_B6", .millimetres, 128.0, 182.0, "B6 (JIS)"⟩,
  ⟨"B6JIS", "JIS_B6", .millimetres, 128.0, 182.0, "B6 (JIS)"⟩,
  ⟨"B6", "JIS_B6", .millimetres, 128.0, 182.0, "B6 (JIS)"⟩,
  ⟨"JISB7", "JIS_B7", .millimetres, 91.0, 128.0, "B7 (JIS)"⟩,
  ⟨"B7JIS", "JIS_B7", .millimetres, 91.0, 128.0, "B7 (JIS)"⟩,
  ⟨"B7", "JIS_B7", .millimetres, 91.0, 128.0, "B7 (JIS)"⟩,
  ⟨"JISB8", "JIS_B8", .millimetres, 64.0, 91.0, "B8 (JIS)"⟩,
  ⟨"B8JIS", "JIS_B8", .millimetres, 64.0, 91.0, "B8 (JIS)"⟩,
  ⟨"B8", "JIS_B8", .millimetres, 64.0, 91.0, "B8 (JIS)"⟩,
  ⟨"JISB9", "JIS_B9", .millimetres, 45.0, 64.0, "B9 (JIS)"⟩,
  ⟨"B9JIS", "JIS_B9", .millimetres, 45.0, 64.0, "B9 (JIS)"⟩,
  ⟨"B9", "JIS_B9", .millimetres, 45.0, 64.0, "B9 (JIS)"⟩,
  ⟨"JISB10", "JIS_B10", .millimetres, 32.0, 45.0, "B10 (JIS)"⟩,
  ⟨"B10JIS", "JIS_B10", .millimetres, 32.0, 45.0, "B10 (JIS)"⟩,
  ⟨"B10", "JIS_B10", .millimetres, 32.0, 45.0, "B10 (JIS)"⟩,
  ⟨"EnvChou4", "JPN_CHOU4", .millimetres, 90.0, 205.0, "EnvChou4"⟩,
  ⟨"Hagaki", "JPN_HAGAKI", .millimetres, 100.0, 148.0, "Hagaki"⟩,
  ⟨"JapanesePostCard", "JPN_HAGAKI", .millimetres, 100.0, 148.0, "Japanese Postcard"⟩,
  ⟨"Postcard", "JPN_HAGAKI", .millimetres, 100.0, 148.0, "Postcard"⟩,
  ⟨"EnvYou4", "JPN_YOU4", .millimetres, 105.0, 235.0, "EnvYou4"⟩,
  ⟨"EnvChou3", "JPN_CHOU3", .millimetres, 120.0, 235.0, "EnvChou3"⟩,
  ⟨"Oufuku", "JPN_OUFUKU", .millimetres, 148.0, 200.0, "Oufuku"⟩,
  ⟨"DoublePostcardRotated", "JPN_OUFUKU", .millimetres, 148.0, 200.0, "Double Postcard Rotated"⟩,
  ⟨"EnvKaku2", "JPN_KAKU2", .millimetres, 240.0, 332.0, "EnvKaku2"⟩,
  ⟨"om_small-photo", "OM_SMALL_PHOTO", .millimetres, 100.0, 150.0, "Small Photo"⟩,
  ⟨"EnvItalian", "OM_ITALIAN", .millimetres, 110.0, 230.0, "EnvItalian"⟩,
  ⟨"om_large-photo", "OM_LARGE_PHOTO", .millimetres, 200.0, 300.0, "Large Photo"⟩,
  ⟨"Folio", "OM_FOLIO", .millimetres, 210.0, 330.0, "Folio"⟩,
  ⟨"FolioSP", "OM_FOLIO_SP", .millimetres, 215.0, 315.0, "FolioSP"⟩,
  ⟨"EnvInvite", "OM_INVITE", .millimetres, 220.0, 220.0, "EnvInvite"⟩,
  ⟨"8Kai", "CUSTOM", .inches, 10.5, 15.375, "8 Kai"⟩,
  ⟨"8K", "CUSTOM", .inches, 10.5, 15.375, "8 Kai"⟩,
  ⟨"16Kai", "CUSTOM", .inches, 7.6875, 10.5, "16 Kai"⟩,
  ⟨"16K", "CUSTOM", .inches, 7.6875, 10.5, "16 Kai"⟩
]

/-- The named size of a keyword. -/
def NamedSize.find? (keyword : String) : Option NamedSize :=
  namedSizes.find? fun size => size.keyword = keyword

end PrintConnector.Ppd
