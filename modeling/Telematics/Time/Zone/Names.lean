import Telematics.Time.Zone.History

/-!
# The names of time zones

Every zone with its offset and its rule, under all of its names. Most follow
one of three rules, those of Europe, of North America and of Australia; the
rest have rules of their own. Where the clocks follow the moon, as they do
during Ramadan, the rule leaves that out.
-/

namespace Telematics

namespace DaylightRule

/-- From the last Sunday of March to the last Sunday of October, everywhere at
01:00 universal time. -/
def european : DaylightRule where
  forward := { month := 3, day := 25, time := 3600, isUniversal := true }
  back := { month := 10, day := 25, time := 3600, isUniversal := true }

/-- From the second Sunday of March to the first Sunday of November. -/
def american : DaylightRule where
  forward := { month := 3, day := 8, time := 7200 }
  back := { month := 11, day := 1, time := 3600 }

/-- From the first Sunday of October to the first Sunday of April. -/
def australian : DaylightRule where
  forward := { month := 10, day := 1, time := 7200 }
  back := { month := 4, day := 1, time := 7200 }

/-- As in the rest of Australia, by half an hour. -/
def lordHowe : DaylightRule where
  forward := { month := 10, day := 1, time := 7200 }
  back := { month := 4, day := 1, time := 5400 }
  amount := 1800

/-- From the last Sunday of September to the first Sunday of April. -/
def newZealand : DaylightRule where
  forward := { month := 9, day := 24, time := 7200 }
  back := { month := 4, day := 1, time := 7200 }

/-- At the same instants as in New Zealand. -/
def chatham : DaylightRule where
  forward := { month := 9, day := 24, time := 9900 }
  back := { month := 4, day := 1, time := 9900 }

/-- From the Sunday after the first of September to the Sunday after the
first of April. -/
def chilean : DaylightRule where
  forward := { month := 9, day := 2, time := 14400, isUniversal := true }
  back := { month := 4, day := 2, time := 10800, isUniversal := true }

/-- From the first Sunday of October to the fourth of March. -/
def paraguayan : DaylightRule where
  forward := { month := 10, day := 1, time := 0 }
  back := { month := 3, day := 22, time := -3600 }

/-- From the second Sunday of March to the first Sunday of November, at
midnight. -/
def cuban : DaylightRule where
  forward := { month := 3, day := 8, time := 0 }
  back := { month := 11, day := 1, time := 0 }

/-- From the last Friday of April to the last Thursday of October. -/
def egyptian : DaylightRule where
  forward := { month := 4, day := 24, weekday := 6, time := 0 }
  back := { month := 10, day := 25, weekday := 5, time := 82800 }

/-- From the last Sunday of March to the last Sunday of October, at
midnight. -/
def lebanese : DaylightRule where
  forward := { month := 3, day := 25, time := 0 }
  back := { month := 10, day := 25, time := -3600 }

/-- From the last Friday but one of March to the last Sunday of October. -/
def israeli : DaylightRule where
  forward := { month := 3, day := 23, weekday := 6, time := 7200 }
  back := { month := 10, day := 25, time := 3600 }

/-- From the last Saturday of March to the last Saturday of October. -/
def palestinian : DaylightRule where
  forward := { month := 3, day := 25, weekday := 7, time := 7200 }
  back := { month := 10, day := 25, weekday := 7, time := 3600 }

/-- From the last Sunday of March to the last Sunday of October. -/
def moldovan : DaylightRule where
  forward := { month := 3, day := 25, time := 7200 }
  back := { month := 10, day := 25, time := 7200 }

/-- As in Europe, by two hours. -/
def troll : DaylightRule := { european with amount := 7200 }

end DaylightRule

namespace Zone

/-- The names of Coordinated Universal Time. -/
def universalNames : List String :=
  ["UTC", "Etc/UTC", "UCT", "Etc/UCT", "GMT", "Etc/GMT", "GMT0", "Etc/GMT0",
    "GMT+0", "Etc/GMT+0", "GMT-0", "Etc/GMT-0", "Greenwich", "Etc/Greenwich",
    "Universal", "Etc/Universal", "Zulu", "Etc/Zulu"]

/-- Zones by their offset in minutes and their rule. -/
def groups : List (Int × Option DaylightRule × List String) :=
  [(-660, none, ["Pacific/Midway", "Pacific/Niue", "Pacific/Pago_Pago",
      "Pacific/Samoa", "US/Samoa"]),
   (-600, some .american, ["America/Adak", "America/Atka", "US/Aleutian"]),
   (-600, none, ["HST", "Pacific/Honolulu", "Pacific/Johnston",
      "Pacific/Rarotonga", "Pacific/Tahiti", "US/Hawaii"]),
   (-570, none, ["Pacific/Marquesas"]),
   (-540, some .american, ["America/Anchorage", "America/Juneau",
      "America/Metlakatla", "America/Nome", "America/Sitka",
      "America/Yakutat", "US/Alaska"]),
   (-540, none, ["Pacific/Gambier"]),
   (-480, some .american, ["America/Ensenada", "America/Los_Angeles",
      "America/Santa_Isabel", "America/Tijuana", "America/Vancouver",
      "Canada/Pacific", "Mexico/BajaNorte", "PST8PDT", "US/Pacific"]),
   (-480, none, ["Pacific/Pitcairn"]),
   (-420, some .american, ["America/Boise", "America/Cambridge_Bay",
      "America/Ciudad_Juarez", "America/Denver", "America/Edmonton",
      "America/Inuvik", "America/Shiprock", "America/Yellowknife",
      "Canada/Mountain", "MST7MDT", "Navajo", "US/Mountain"]),
   (-420, none, ["America/Creston", "America/Dawson", "America/Dawson_Creek",
      "America/Fort_Nelson", "America/Hermosillo", "America/Mazatlan",
      "America/Phoenix", "America/Whitehorse", "Canada/Yukon", "MST",
      "Mexico/BajaSur", "US/Arizona"]),
   (-360, some .american, ["America/Chicago", "America/Indiana/Knox",
      "America/Indiana/Tell_City", "America/Knox_IN", "America/Matamoros",
      "America/Menominee", "America/North_Dakota/Beulah",
      "America/North_Dakota/Center", "America/North_Dakota/New_Salem",
      "America/Ojinaga", "America/Rainy_River", "America/Rankin_Inlet",
      "America/Resolute", "America/Winnipeg", "CST6CDT", "Canada/Central",
      "US/Central", "US/Indiana-Starke"]),
   (-360, some .chilean, ["Chile/EasterIsland", "Pacific/Easter"]),
   (-360, none, ["America/Bahia_Banderas", "America/Belize",
      "America/Chihuahua", "America/Costa_Rica", "America/El_Salvador",
      "America/Guatemala", "America/Managua", "America/Merida",
      "America/Mexico_City", "America/Monterrey", "America/Regina",
      "America/Swift_Current", "America/Tegucigalpa", "Canada/Saskatchewan",
      "Mexico/General", "Pacific/Galapagos"]),
   (-300, some .american, ["America/Detroit", "America/Fort_Wayne",
      "America/Grand_Turk", "America/Indiana/Indianapolis",
      "America/Indiana/Marengo", "America/Indiana/Petersburg",
      "America/Indiana/Vevay", "America/Indiana/Vincennes",
      "America/Indiana/Winamac", "America/Indianapolis", "America/Iqaluit",
      "America/Kentucky/Louisville", "America/Kentucky/Monticello",
      "America/Louisville", "America/Montreal", "America/Nassau",
      "America/New_York", "America/Nipigon", "America/Pangnirtung",
      "America/Port-au-Prince", "America/Thunder_Bay", "America/Toronto",
      "Canada/Eastern", "EST5EDT", "US/East-Indiana", "US/Eastern",
      "US/Michigan"]),
   (-300, some .cuban, ["America/Havana", "Cuba"]),
   (-300, none, ["America/Atikokan", "America/Bogota", "America/Cancun",
      "America/Cayman", "America/Coral_Harbour", "America/Eirunepe",
      "America/Guayaquil", "America/Jamaica", "America/Lima",
      "America/Panama", "America/Porto_Acre", "America/Rio_Branco",
      "Brazil/Acre", "EST", "Jamaica"]),
   (-240, some .american, ["America/Glace_Bay", "America/Goose_Bay",
      "America/Halifax", "America/Moncton", "America/Thule",
      "Atlantic/Bermuda", "Canada/Atlantic"]),
   (-240, some .chilean, ["America/Santiago", "Chile/Continental"]),
   (-240, none, ["America/Anguilla", "America/Antigua", "America/Aruba",
      "America/Barbados", "America/Blanc-Sablon", "America/Boa_Vista",
      "America/Campo_Grande", "America/Caracas", "America/Cuiaba",
      "America/Curacao", "America/Dominica", "America/Grenada",
      "America/Guadeloupe", "America/Guyana", "America/Kralendijk",
      "America/La_Paz", "America/Lower_Princes", "America/Manaus",
      "America/Marigot", "America/Martinique", "America/Montserrat",
      "America/Port_of_Spain", "America/Porto_Velho", "America/Puerto_Rico",
      "America/Santo_Domingo", "America/St_Barthelemy", "America/St_Kitts",
      "America/St_Lucia", "America/St_Thomas", "America/St_Vincent",
      "America/Tortola", "America/Virgin", "Brazil/West"]),
   (-240, some .paraguayan, ["America/Asuncion"]),
   (-210, some .american, ["America/St_Johns", "Canada/Newfoundland"]),
   (-180, some .american, ["America/Miquelon"]),
   (-180, none, ["America/Araguaina", "America/Argentina/Buenos_Aires",
      "America/Argentina/Catamarca", "America/Argentina/ComodRivadavia",
      "America/Argentina/Cordoba", "America/Argentina/Jujuy",
      "America/Argentina/La_Rioja", "America/Argentina/Mendoza",
      "America/Argentina/Rio_Gallegos", "America/Argentina/Salta",
      "America/Argentina/San_Juan", "America/Argentina/San_Luis",
      "America/Argentina/Tucuman", "America/Argentina/Ushuaia",
      "America/Bahia", "America/Belem", "America/Buenos_Aires",
      "America/Catamarca", "America/Cayenne", "America/Cordoba",
      "America/Fortaleza", "America/Jujuy", "America/Maceio",
      "America/Mendoza", "America/Montevideo", "America/Paramaribo",
      "America/Punta_Arenas", "America/Recife", "America/Rosario",
      "America/Santarem", "America/Sao_Paulo", "Antarctica/Palmer",
      "Antarctica/Rothera", "Atlantic/Stanley", "Brazil/East"]),
   (-120, some .european, ["America/Godthab", "America/Nuuk",
      "America/Scoresbysund"]),
   (-120, none, ["America/Noronha", "Atlantic/South_Georgia",
      "Brazil/DeNoronha"]),
   (-60, some .european, ["Atlantic/Azores"]),
   (-60, none, ["Atlantic/Cape_Verde"]),
   (0, some .european, ["Atlantic/Canary", "Atlantic/Faeroe",
      "Atlantic/Faroe", "Atlantic/Madeira", "Eire", "Europe/Belfast",
      "Europe/Dublin", "Europe/Guernsey", "Europe/Isle_of_Man",
      "Europe/Jersey", "Europe/Lisbon", "Europe/London", "GB", "GB-Eire",
      "Portugal", "WET"]),
   (0, none, ["Africa/Abidjan", "Africa/Accra", "Africa/Bamako",
      "Africa/Banjul", "Africa/Bissau", "Africa/Conakry", "Africa/Dakar",
      "Africa/Freetown", "Africa/Lome", "Africa/Monrovia",
      "Africa/Nouakchott", "Africa/Ouagadougou", "Africa/Sao_Tome",
      "Africa/Timbuktu", "America/Danmarkshavn", "Atlantic/Reykjavik",
      "Atlantic/St_Helena", "Iceland"]),
   (0, some .troll, ["Antarctica/Troll"]),
   (60, some .european, ["Africa/Ceuta", "Arctic/Longyearbyen",
      "Atlantic/Jan_Mayen", "CET", "Europe/Amsterdam", "Europe/Andorra",
      "Europe/Belgrade", "Europe/Berlin", "Europe/Bratislava",
      "Europe/Brussels", "Europe/Budapest", "Europe/Busingen",
      "Europe/Copenhagen", "Europe/Gibraltar", "Europe/Ljubljana",
      "Europe/Luxembourg", "Europe/Madrid", "Europe/Malta", "Europe/Monaco",
      "Europe/Oslo", "Europe/Paris", "Europe/Podgorica", "Europe/Prague",
      "Europe/Rome", "Europe/San_Marino", "Europe/Sarajevo", "Europe/Skopje",
      "Europe/Stockholm", "Europe/Tirane", "Europe/Vaduz", "Europe/Vatican",
      "Europe/Vienna", "Europe/Warsaw", "Europe/Zagreb", "Europe/Zurich",
      "MET", "Poland"]),
   (60, none, ["Africa/Algiers", "Africa/Bangui", "Africa/Brazzaville",
      "Africa/Casablanca", "Africa/Douala", "Africa/El_Aaiun",
      "Africa/Kinshasa", "Africa/Lagos", "Africa/Libreville", "Africa/Luanda",
      "Africa/Malabo", "Africa/Ndjamena", "Africa/Niamey",
      "Africa/Porto-Novo", "Africa/Tunis"]),
   (120, some .egyptian, ["Africa/Cairo", "Egypt"]),
   (120, some .european, ["Asia/Famagusta", "Asia/Nicosia", "EET",
      "Europe/Athens", "Europe/Bucharest", "Europe/Helsinki", "Europe/Kiev",
      "Europe/Kyiv", "Europe/Mariehamn", "Europe/Nicosia", "Europe/Riga",
      "Europe/Sofia", "Europe/Tallinn", "Europe/Uzhgorod", "Europe/Vilnius",
      "Europe/Zaporozhye"]),
   (120, some .israeli, ["Asia/Jerusalem", "Asia/Tel_Aviv", "Israel"]),
   (120, some .lebanese, ["Asia/Beirut"]),
   (120, some .moldovan, ["Europe/Chisinau", "Europe/Tiraspol"]),
   (120, none, ["Africa/Blantyre", "Africa/Bujumbura", "Africa/Gaborone",
      "Africa/Harare", "Africa/Johannesburg", "Africa/Juba",
      "Africa/Khartoum", "Africa/Kigali", "Africa/Lubumbashi",
      "Africa/Lusaka", "Africa/Maputo", "Africa/Maseru", "Africa/Mbabane",
      "Africa/Tripoli", "Africa/Windhoek", "Europe/Kaliningrad", "Libya"]),
   (120, some .palestinian, ["Asia/Gaza", "Asia/Hebron"]),
   (180, none, ["Africa/Addis_Ababa", "Africa/Asmara", "Africa/Asmera",
      "Africa/Dar_es_Salaam", "Africa/Djibouti", "Africa/Kampala",
      "Africa/Mogadishu", "Africa/Nairobi", "Antarctica/Syowa", "Asia/Aden",
      "Asia/Amman", "Asia/Baghdad", "Asia/Bahrain", "Asia/Damascus",
      "Asia/Istanbul", "Asia/Kuwait", "Asia/Qatar", "Asia/Riyadh",
      "Europe/Istanbul", "Europe/Kirov", "Europe/Minsk", "Europe/Moscow",
      "Europe/Simferopol", "Europe/Volgograd", "Indian/Antananarivo",
      "Indian/Comoro", "Indian/Mayotte", "Turkey", "W-SU"]),
   (210, none, ["Asia/Tehran", "Iran"]),
   (240, none, ["Asia/Baku", "Asia/Dubai", "Asia/Muscat", "Asia/Tbilisi",
      "Asia/Yerevan", "Europe/Astrakhan", "Europe/Samara", "Europe/Saratov",
      "Europe/Ulyanovsk", "Indian/Mahe", "Indian/Mauritius", "Indian/Reunion"]),
   (270, none, ["Asia/Kabul"]),
   (300, none, ["Antarctica/Mawson", "Antarctica/Vostok", "Asia/Almaty",
      "Asia/Aqtau", "Asia/Aqtobe", "Asia/Ashgabat", "Asia/Ashkhabad",
      "Asia/Atyrau", "Asia/Dushanbe", "Asia/Karachi", "Asia/Oral",
      "Asia/Qostanay", "Asia/Qyzylorda", "Asia/Samarkand", "Asia/Tashkent",
      "Asia/Yekaterinburg", "Indian/Kerguelen", "Indian/Maldives"]),
   (330, none, ["Asia/Calcutta", "Asia/Colombo", "Asia/Kolkata"]),
   (345, none, ["Asia/Kathmandu", "Asia/Katmandu"]),
   (360, none, ["Asia/Bishkek", "Asia/Dacca", "Asia/Dhaka", "Asia/Kashgar",
      "Asia/Omsk", "Asia/Thimbu", "Asia/Thimphu", "Asia/Urumqi",
      "Indian/Chagos"]),
   (390, none, ["Asia/Rangoon", "Asia/Yangon", "Indian/Cocos"]),
   (420, none, ["Antarctica/Davis", "Asia/Bangkok", "Asia/Barnaul",
      "Asia/Ho_Chi_Minh", "Asia/Hovd", "Asia/Jakarta", "Asia/Krasnoyarsk",
      "Asia/Novokuznetsk", "Asia/Novosibirsk", "Asia/Phnom_Penh",
      "Asia/Pontianak", "Asia/Saigon", "Asia/Tomsk", "Asia/Vientiane",
      "Indian/Christmas"]),
   (480, none, ["Antarctica/Casey", "Asia/Brunei", "Asia/Choibalsan",
      "Asia/Chongqing", "Asia/Chungking", "Asia/Harbin", "Asia/Hong_Kong",
      "Asia/Irkutsk", "Asia/Kuala_Lumpur", "Asia/Kuching", "Asia/Macao",
      "Asia/Macau", "Asia/Makassar", "Asia/Manila", "Asia/Shanghai",
      "Asia/Singapore", "Asia/Taipei", "Asia/Ujung_Pandang",
      "Asia/Ulaanbaatar", "Asia/Ulan_Bator", "Australia/Perth",
      "Australia/West", "Hongkong", "PRC", "ROC", "Singapore"]),
   (525, none, ["Australia/Eucla"]),
   (540, none, ["Asia/Chita", "Asia/Dili", "Asia/Jayapura", "Asia/Khandyga",
      "Asia/Pyongyang", "Asia/Seoul", "Asia/Tokyo", "Asia/Yakutsk", "Japan",
      "Pacific/Palau", "ROK"]),
   (570, some .australian, ["Australia/Adelaide", "Australia/Broken_Hill",
      "Australia/South", "Australia/Yancowinna"]),
   (570, none, ["Australia/Darwin", "Australia/North"]),
   (600, some .australian, ["Antarctica/Macquarie", "Australia/ACT",
      "Australia/Canberra", "Australia/Currie", "Australia/Hobart",
      "Australia/Melbourne", "Australia/NSW", "Australia/Sydney",
      "Australia/Tasmania", "Australia/Victoria"]),
   (600, none, ["Antarctica/DumontDUrville", "Asia/Ust-Nera",
      "Asia/Vladivostok", "Australia/Brisbane", "Australia/Lindeman",
      "Australia/Queensland", "Pacific/Chuuk", "Pacific/Guam",
      "Pacific/Port_Moresby", "Pacific/Saipan", "Pacific/Truk", "Pacific/Yap"]),
   (630, some .lordHowe, ["Australia/LHI", "Australia/Lord_Howe"]),
   (660, some .australian, ["Pacific/Norfolk"]),
   (660, none, ["Asia/Magadan", "Asia/Sakhalin", "Asia/Srednekolymsk",
      "Pacific/Bougainville", "Pacific/Efate", "Pacific/Guadalcanal",
      "Pacific/Kosrae", "Pacific/Noumea", "Pacific/Pohnpei", "Pacific/Ponape"]),
   (720, some .newZealand, ["Antarctica/McMurdo", "Antarctica/South_Pole", "NZ",
      "Pacific/Auckland"]),
   (720, none, ["Asia/Anadyr", "Asia/Kamchatka", "Kwajalein", "Pacific/Fiji",
      "Pacific/Funafuti", "Pacific/Kwajalein", "Pacific/Majuro",
      "Pacific/Nauru", "Pacific/Tarawa", "Pacific/Wake", "Pacific/Wallis"]),
   (765, some .chatham, ["NZ-CHAT", "Pacific/Chatham"]),
   (780, none, ["Pacific/Apia", "Pacific/Enderbury", "Pacific/Fakaofo",
      "Pacific/Kanton", "Pacific/Tongatapu"]),
   (840, none, ["Pacific/Kiritimati"])]

/-- The zones that are named for their offset; the sign in the name says how
far behind universal time the zone is. -/
def offsetZones : List Zone :=
  ((List.range 12).map fun k =>
      { name := "Etc/GMT+" ++ toString (k + 1), standard := -3600 * (k + 1) })
    ++ ((List.range 14).map fun k =>
      { name := "Etc/GMT-" ++ toString (k + 1), standard := 3600 * (k + 1) })

/-- The zone of a name. -/
def ofName? (name : String) : Option Zone :=
  if universalNames.contains name then some { utc with name }
  else
    match groups.find? (·.2.2.contains name) with
    | some (minutes, rule, _) =>
      some { name, standard := 60 * minutes, rule, history := historyOf name }
    | none => offsetZones.find? (·.name == name)

end Zone

end Telematics
