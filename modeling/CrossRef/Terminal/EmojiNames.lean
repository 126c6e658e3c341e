/-!
The names of emoji, in lower case. A name stands for one character, for several in a row, or for
the flag of a region; persons and hands have further names for each tone of their skin.
-/

namespace CrossRef.Emoji

set_option maxRecDepth 4096 in
/-- Symbols of the basic plane with their names. -/
def symbolNames : List (Nat × List String) :=
  [(0xA9, ["copyright"]), (0xAE, ["registered"]), (0x203C, ["bangbang", "double_exclamation_mark"]),
   (0x2049, ["exclamation_question_mark", "interrobang"]), (0x2122, ["tm", "trade_mark"]),
   (0x2139, ["information", "information_source"]),
   (0x2194, ["left-right_arrow", "left_right_arrow"]), (0x2195, ["arrow_up_down", "up-down_arrow"]),
   (0x2196, ["arrow_upper_left", "up-left_arrow"]),
   (0x2197, ["arrow_upper_right", "up-right_arrow"]),
   (0x2198, ["arrow_lower_right", "down-right_arrow"]),
   (0x2199, ["arrow_lower_left", "down-left_arrow"]),
   (0x21A9, ["leftwards_arrow_with_hook", "right_arrow_curving_left"]),
   (0x21AA, ["arrow_right_hook", "left_arrow_curving_right"]), (0x231A, ["watch"]),
   (0x231B, ["hourglass", "hourglass_done"]), (0x2328, ["keyboard"]), (0x2388, ["helm_symbol"]),
   (0x23CF, ["eject_button", "eject_symbol"]), (0x23E9, ["fast-forward_button", "fast_forward"]),
   (0x23EA, ["fast_reverse_button", "rewind"]), (0x23EB, ["arrow_double_up", "fast_up_button"]),
   (0x23EC, ["arrow_double_down", "fast_down_button"]),
   (0x23ED, ["black_right__pointing_double_triangle_with_vertical_bar", "next_track_button"]),
   (0x23EE, ["black_left__pointing_double_triangle_with_vertical_bar", "last_track_button"]),
   (0x23EF, ["black_right__pointing_triangle_with_double_vertical_bar", "play_or_pause_button"]),
   (0x23F0, ["alarm_clock"]), (0x23F1, ["stopwatch"]), (0x23F2, ["timer_clock"]),
   (0x23F3, ["hourglass_flowing_sand", "hourglass_not_done"]),
   (0x23F8, ["double_vertical_bar", "pause_button"]),
   (0x23F9, ["black_square_for_stop", "stop_button"]),
   (0x23FA, ["black_circle_for_record", "record_button"]), (0x24C2, ["circled_m", "m"]),
   (0x25AA, ["black_small_square"]), (0x25AB, ["white_small_square"]),
   (0x25B6, ["arrow_forward", "play_button"]), (0x25C0, ["arrow_backward", "reverse_button"]),
   (0x25FB, ["white_medium_square"]), (0x25FC, ["black_medium_square"]),
   (0x25FD, ["white_medium-small_square", "white_medium_small_square"]),
   (0x25FE, ["black_medium-small_square", "black_medium_small_square"]), (0x2600, ["sun", "sunny"]),
   (0x2601, ["cloud"]), (0x2602, ["umbrella"]), (0x2603, ["snowman"]), (0x2604, ["comet"]),
   (0x260E, ["phone", "telephone"]), (0x2611, ["ballot_box_with_check"]),
   (0x2614, ["umbrella_with_rain_drops"]), (0x2615, ["coffee", "hot_beverage"]),
   (0x2618, ["shamrock"]), (0x261D, ["index_pointing_up", "point_up"]),
   (0x2620, ["skull_and_crossbones"]), (0x2622, ["radioactive", "radioactive_sign"]),
   (0x2623, ["biohazard", "biohazard_sign"]), (0x2626, ["orthodox_cross"]),
   (0x262A, ["star_and_crescent"]), (0x262E, ["peace_symbol"]), (0x262F, ["yin_yang"]),
   (0x2638, ["wheel_of_dharma"]), (0x2639, ["frowning_face", "white_frowning_face"]),
   (0x263A, ["relaxed", "smiling_face"]), (0x2640, ["female_sign"]), (0x2642, ["male_sign"]),
   (0x2648, ["aries"]), (0x2649, ["taurus"]), (0x264A, ["gemini"]), (0x264B, ["cancer"]),
   (0x264C, ["leo"]), (0x264D, ["virgo"]), (0x264E, ["libra"]), (0x264F, ["scorpio", "scorpius"]),
   (0x2650, ["sagittarius"]), (0x2651, ["capricorn"]), (0x2652, ["aquarius"]), (0x2653, ["pisces"]),
   (0x265F, ["chess_pawn"]), (0x2660, ["spade_suit", "spades"]), (0x2663, ["club_suit", "clubs"]),
   (0x2665, ["heart_suit", "hearts"]), (0x2666, ["diamond_suit", "diamonds"]),
   (0x2668, ["hot_springs", "hotsprings"]), (0x267B, ["recycle", "recycling_symbol"]),
   (0x267E, ["infinity"]), (0x267F, ["wheelchair", "wheelchair_symbol"]),
   (0x2692, ["hammer_and_pick"]), (0x2693, ["anchor"]), (0x2694, ["crossed_swords"]),
   (0x2695, ["medical_symbol"]), (0x2696, ["balance_scale", "scales"]), (0x2697, ["alembic"]),
   (0x2699, ["gear"]), (0x269B, ["atom_symbol"]), (0x269C, ["fleur-de-lis", "fleur__de__lis"]),
   (0x26A0, ["warning"]), (0x26A1, ["high_voltage", "zap"]), (0x26AA, ["white_circle"]),
   (0x26AB, ["black_circle"]), (0x26B0, ["coffin"]), (0x26B1, ["funeral_urn"]),
   (0x26BD, ["soccer", "soccer_ball"]), (0x26BE, ["baseball"]), (0x26C4, ["snowman_without_snow"]),
   (0x26C5, ["partly_sunny", "sun_behind_cloud"]),
   (0x26C8, ["cloud_with_lightning_and_rain", "thunder_cloud_and_rain"]), (0x26CE, ["ophiuchus"]),
   (0x26CF, ["pick"]), (0x26D1, ["helmet_with_white_cross", "rescue_worker’s_helmet"]),
   (0x26D3, ["chains"]), (0x26D4, ["no_entry"]), (0x26E9, ["shinto_shrine"]), (0x26EA, ["church"]),
   (0x26F0, ["mountain"]), (0x26F1, ["umbrella_on_ground"]), (0x26F2, ["fountain"]),
   (0x26F3, ["flag_in_hole", "golf"]), (0x26F4, ["ferry"]), (0x26F5, ["boat", "sailboat"]),
   (0x26F7, ["skier"]), (0x26F8, ["ice_skate"]),
   (0x26F9, ["person_bouncing_ball", "person_with_ball"]), (0x26FA, ["tent"]),
   (0x26FD, ["fuel_pump", "fuelpump"]), (0x2702, ["scissors"]),
   (0x2705, ["white_check_mark", "white_heavy_check_mark"]), (0x2708, ["airplane"]),
   (0x2709, ["email", "envelope"]), (0x270A, ["fist", "raised_fist"]),
   (0x270B, ["hand", "raised_hand"]), (0x270C, ["v", "victory_hand"]), (0x270D, ["writing_hand"]),
   (0x270F, ["pencil2"]), (0x2712, ["black_nib"]), (0x2714, ["heavy_check_mark"]),
   (0x2716, ["heavy_multiplication_x"]), (0x271D, ["latin_cross"]), (0x2721, ["star_of_david"]),
   (0x2728, ["sparkles"]), (0x2733, ["eight-spoked_asterisk", "eight_spoked_asterisk"]),
   (0x2734, ["eight-pointed_star", "eight_pointed_black_star"]), (0x2744, ["snowflake"]),
   (0x2747, ["sparkle"]), (0x274C, ["cross_mark", "x"]),
   (0x274E, ["cross_mark_button", "negative_squared_cross_mark"]),
   (0x2753, ["question", "question_mark"]), (0x2754, ["grey_question", "white_question_mark"]),
   (0x2755, ["grey_exclamation", "white_exclamation_mark"]),
   (0x2757, ["exclamation", "exclamation_mark", "heavy_exclamation_mark"]),
   (0x2763, ["heavy_heart_exclamation", "heavy_heart_exclamation_mark_ornament"]),
   (0x2764, ["heart", "red_heart"]), (0x2795, ["heavy_plus_sign"]), (0x2796, ["heavy_minus_sign"]),
   (0x2797, ["heavy_division_sign"]), (0x27A1, ["arrow_right", "right_arrow"]),
   (0x27B0, ["curly_loop"]), (0x27BF, ["double_curly_loop", "loop"]),
   (0x2934, ["arrow_heading_up", "right_arrow_curving_up"]),
   (0x2935, ["arrow_heading_down", "right_arrow_curving_down"]),
   (0x2B05, ["arrow_left", "left_arrow"]), (0x2B06, ["arrow_up", "up_arrow"]),
   (0x2B07, ["arrow_down", "down_arrow"]), (0x2B1B, ["black_large_square"]),
   (0x2B1C, ["white_large_square"]), (0x2B50, ["star", "white_medium_star"]),
   (0x2B55, ["heavy_large_circle", "o"]), (0x3030, ["wavy_dash"]),
   (0x303D, ["part_alternation_mark"]),
   (0x3297, ["congratulations", "japanese_congratulations_button"]),
   (0x3299, ["japanese_secret_button", "secret"])]

set_option maxRecDepth 4096 in
/-- Signs, weather, plants, food and pastimes with their names. -/
def sceneNames : List (Nat × List String) :=
  [(0x1F004, ["mahjong", "mahjong_red_dragon"]), (0x1F0CF, ["black_joker", "joker"]),
   (0x1F170, ["a", "a_button_(blood_type)"]), (0x1F171, ["b", "b_button_(blood_type)"]),
   (0x1F17E, ["o2", "o_button_(blood_type)"]), (0x1F17F, ["p_button", "parking"]),
   (0x1F18E, ["ab", "ab_button_(blood_type)"]), (0x1F191, ["cl", "cl_button"]),
   (0x1F192, ["cool", "cool_button"]), (0x1F193, ["free", "free_button"]),
   (0x1F194, ["id", "id_button"]), (0x1F195, ["new", "new_button"]), (0x1F196, ["ng", "ng_button"]),
   (0x1F197, ["ok", "ok_button"]), (0x1F198, ["sos", "sos_button"]),
   (0x1F199, ["up", "up!_button"]), (0x1F19A, ["vs", "vs_button"]),
   (0x1F1E6, ["regional_indicator_a", "regional_indicator_symbol_letter_a"]),
   (0x1F1E7, ["regional_indicator_b", "regional_indicator_symbol_letter_b"]),
   (0x1F1E8, ["regional_indicator_c", "regional_indicator_symbol_letter_c"]),
   (0x1F1E9, ["regional_indicator_d", "regional_indicator_symbol_letter_d"]),
   (0x1F1EA, ["regional_indicator_e", "regional_indicator_symbol_letter_e"]),
   (0x1F1EB, ["regional_indicator_f", "regional_indicator_symbol_letter_f"]),
   (0x1F1EC, ["regional_indicator_g", "regional_indicator_symbol_letter_g"]),
   (0x1F1ED, ["regional_indicator_h", "regional_indicator_symbol_letter_h"]),
   (0x1F1EE, ["regional_indicator_i", "regional_indicator_symbol_letter_i"]),
   (0x1F1EF, ["regional_indicator_j", "regional_indicator_symbol_letter_j"]),
   (0x1F1F0, ["regional_indicator_k", "regional_indicator_symbol_letter_k"]),
   (0x1F1F1, ["regional_indicator_l", "regional_indicator_symbol_letter_l"]),
   (0x1F1F2, ["regional_indicator_m", "regional_indicator_symbol_letter_m"]),
   (0x1F1F3, ["regional_indicator_n", "regional_indicator_symbol_letter_n"]),
   (0x1F1F4, ["regional_indicator_o", "regional_indicator_symbol_letter_o"]),
   (0x1F1F5, ["regional_indicator_p", "regional_indicator_symbol_letter_p"]),
   (0x1F1F6, ["regional_indicator_q", "regional_indicator_symbol_letter_q"]),
   (0x1F1F7, ["regional_indicator_r", "regional_indicator_symbol_letter_r"]),
   (0x1F1F8, ["regional_indicator_s", "regional_indicator_symbol_letter_s"]),
   (0x1F1F9, ["regional_indicator_symbol_letter_t", "regional_indicator_t"]),
   (0x1F1FA, ["regional_indicator_symbol_letter_u", "regional_indicator_u"]),
   (0x1F1FB, ["regional_indicator_symbol_letter_v", "regional_indicator_v"]),
   (0x1F1FC, ["regional_indicator_symbol_letter_w", "regional_indicator_w"]),
   (0x1F1FD, ["regional_indicator_symbol_letter_x", "regional_indicator_x"]),
   (0x1F1FE, ["regional_indicator_symbol_letter_y", "regional_indicator_y"]),
   (0x1F1FF, ["regional_indicator_symbol_letter_z", "regional_indicator_z"]),
   (0x1F201, ["japanese_here_button", "koko"]), (0x1F202, ["japanese_service_charge_button", "sa"]),
   (0x1F21A, ["japanese_free_of_charge_button", "u7121"]),
   (0x1F22F, ["japanese_reserved_button", "u6307"]),
   (0x1F232, ["japanese_prohibited_button", "u7981"]),
   (0x1F233, ["japanese_vacancy_button", "u7a7a"]),
   (0x1F234, ["japanese_passing_grade_button", "u5408"]),
   (0x1F235, ["japanese_no_vacancy_button", "u6e80"]),
   (0x1F236, ["japanese_not_free_of_charge_button", "u6709"]),
   (0x1F237, ["japanese_monthly_amount_button", "u6708"]),
   (0x1F238, ["japanese_application_button", "u7533"]),
   (0x1F239, ["japanese_discount_button", "u5272"]),
   (0x1F23A, ["japanese_open_for_business_button", "u55b6"]),
   (0x1F250, ["ideograph_advantage", "japanese_bargain_button"]),
   (0x1F251, ["accept", "japanese_acceptable_button"]), (0x1F300, ["cyclone"]),
   (0x1F301, ["foggy"]), (0x1F302, ["closed_umbrella"]), (0x1F303, ["night_with_stars"]),
   (0x1F304, ["sunrise_over_mountains"]), (0x1F305, ["sunrise"]),
   (0x1F306, ["city_sunset", "cityscape_at_dusk"]), (0x1F307, ["city_sunrise", "sunset"]),
   (0x1F308, ["rainbow"]), (0x1F309, ["bridge_at_night"]), (0x1F30A, ["ocean", "water_wave"]),
   (0x1F30B, ["volcano"]), (0x1F30C, ["milky_way"]),
   (0x1F30D, ["earth_africa", "globe_showing_europe-africa"]),
   (0x1F30E, ["earth_americas", "globe_showing_americas"]),
   (0x1F30F, ["earth_asia", "globe_showing_asia-australia"]), (0x1F310, ["globe_with_meridians"]),
   (0x1F311, ["new_moon"]), (0x1F312, ["waxing_crescent_moon"]), (0x1F313, ["first_quarter_moon"]),
   (0x1F314, ["moon", "waxing_gibbous_moon"]), (0x1F315, ["full_moon"]),
   (0x1F316, ["waning_gibbous_moon"]), (0x1F317, ["last_quarter_moon"]),
   (0x1F318, ["waning_crescent_moon"]), (0x1F319, ["crescent_moon"]),
   (0x1F31A, ["new_moon_face", "new_moon_with_face"]),
   (0x1F31B, ["first_quarter_moon_face", "first_quarter_moon_with_face"]),
   (0x1F31C, ["last_quarter_moon_face", "last_quarter_moon_with_face"]),
   (0x1F31D, ["full_moon_face", "full_moon_with_face"]), (0x1F31E, ["sun_with_face"]),
   (0x1F31F, ["glowing_star", "star2"]), (0x1F320, ["shooting_star", "stars"]),
   (0x1F321, ["thermometer"]), (0x1F324, ["sun_behind_small_cloud", "white_sun_with_small_cloud"]),
   (0x1F325, ["sun_behind_large_cloud", "white_sun_behind_cloud"]),
   (0x1F326, ["sun_behind_rain_cloud", "white_sun_behind_cloud_with_rain"]),
   (0x1F327, ["cloud_with_rain"]), (0x1F328, ["cloud_with_snow"]),
   (0x1F329, ["cloud_with_lightning"]), (0x1F32A, ["cloud_with_tornado", "tornado"]),
   (0x1F32B, ["fog"]), (0x1F32C, ["wind_blowing_face", "wind_face"]), (0x1F32D, ["hot_dog"]),
   (0x1F32E, ["taco"]), (0x1F32F, ["burrito"]), (0x1F330, ["chestnut"]), (0x1F331, ["seedling"]),
   (0x1F332, ["evergreen_tree"]), (0x1F333, ["deciduous_tree"]), (0x1F334, ["palm_tree"]),
   (0x1F335, ["cactus"]), (0x1F336, ["hot_pepper"]), (0x1F337, ["tulip"]),
   (0x1F338, ["cherry_blossom"]), (0x1F339, ["rose"]), (0x1F33A, ["hibiscus"]),
   (0x1F33B, ["sunflower"]), (0x1F33C, ["blossom"]), (0x1F33D, ["corn", "ear_of_corn"]),
   (0x1F33E, ["ear_of_rice", "sheaf_of_rice"]), (0x1F33F, ["herb"]),
   (0x1F340, ["four_leaf_clover"]), (0x1F341, ["maple_leaf"]), (0x1F342, ["fallen_leaf"]),
   (0x1F343, ["leaf_fluttering_in_wind", "leaves"]), (0x1F344, ["mushroom"]), (0x1F345, ["tomato"]),
   (0x1F346, ["eggplant"]), (0x1F347, ["grapes"]), (0x1F348, ["melon"]), (0x1F349, ["watermelon"]),
   (0x1F34A, ["tangerine"]), (0x1F34B, ["lemon"]), (0x1F34C, ["banana"]), (0x1F34D, ["pineapple"]),
   (0x1F34E, ["apple", "red_apple"]), (0x1F34F, ["green_apple"]), (0x1F350, ["pear"]),
   (0x1F351, ["peach"]), (0x1F352, ["cherries"]), (0x1F353, ["strawberry"]),
   (0x1F354, ["hamburger"]), (0x1F355, ["pizza"]), (0x1F356, ["meat_on_bone"]),
   (0x1F357, ["poultry_leg"]), (0x1F358, ["rice_cracker"]), (0x1F359, ["rice_ball"]),
   (0x1F35A, ["cooked_rice", "rice"]), (0x1F35B, ["curry", "curry_rice"]),
   (0x1F35C, ["ramen", "steaming_bowl"]), (0x1F35D, ["spaghetti"]), (0x1F35E, ["bread"]),
   (0x1F35F, ["french_fries", "fries"]), (0x1F360, ["roasted_sweet_potato", "sweet_potato"]),
   (0x1F361, ["dango"]), (0x1F362, ["oden"]), (0x1F363, ["sushi"]), (0x1F364, ["fried_shrimp"]),
   (0x1F365, ["fish_cake", "fish_cake_with_swirl"]), (0x1F366, ["icecream", "soft_ice_cream"]),
   (0x1F367, ["shaved_ice"]), (0x1F368, ["ice_cream"]), (0x1F369, ["doughnut"]),
   (0x1F36A, ["cookie"]), (0x1F36B, ["chocolate_bar"]), (0x1F36C, ["candy"]),
   (0x1F36D, ["lollipop"]), (0x1F36E, ["custard"]), (0x1F36F, ["honey_pot"]),
   (0x1F370, ["cake", "shortcake"]), (0x1F371, ["bento", "bento_box"]),
   (0x1F372, ["pot_of_food", "stew"]), (0x1F373, ["cooking", "egg"]), (0x1F374, ["fork_and_knife"]),
   (0x1F375, ["tea", "teacup_without_handle"]), (0x1F376, ["sake"]), (0x1F377, ["wine_glass"]),
   (0x1F378, ["cocktail", "cocktail_glass"]), (0x1F379, ["tropical_drink"]),
   (0x1F37A, ["beer", "beer_mug"]), (0x1F37B, ["beers", "clinking_beer_mugs"]),
   (0x1F37C, ["baby_bottle"]), (0x1F37D, ["fork_and_knife_with_plate"]),
   (0x1F37E, ["bottle_with_popping_cork"]), (0x1F37F, ["popcorn"]), (0x1F380, ["ribbon"]),
   (0x1F381, ["gift", "wrapped_gift"]), (0x1F382, ["birthday", "birthday_cake"]),
   (0x1F383, ["jack-o-lantern", "jack_o_lantern"]), (0x1F384, ["christmas_tree"]),
   (0x1F385, ["santa", "santa_claus"]), (0x1F386, ["fireworks"]), (0x1F387, ["sparkler"]),
   (0x1F388, ["balloon"]), (0x1F389, ["party_popper", "tada"]), (0x1F38A, ["confetti_ball"]),
   (0x1F38B, ["tanabata_tree"]), (0x1F38C, ["crossed_flags"]),
   (0x1F38D, ["bamboo", "pine_decoration"]), (0x1F38E, ["dolls", "japanese_dolls"]),
   (0x1F38F, ["carp_streamer", "flags"]), (0x1F390, ["wind_chime"]),
   (0x1F391, ["moon_viewing_ceremony", "rice_scene"]),
   (0x1F392, ["school_backpack", "school_satchel"]), (0x1F393, ["graduation_cap", "mortar_board"]),
   (0x1F396, ["military_medal"]), (0x1F397, ["reminder_ribbon"]), (0x1F399, ["studio_microphone"]),
   (0x1F39A, ["level_slider"]), (0x1F39B, ["control_knobs"]), (0x1F39E, ["film_frames"]),
   (0x1F39F, ["admission_tickets"]), (0x1F3A0, ["carousel_horse"]), (0x1F3A1, ["ferris_wheel"]),
   (0x1F3A2, ["roller_coaster"]), (0x1F3A3, ["fishing_pole", "fishing_pole_and_fish"]),
   (0x1F3A4, ["microphone"]), (0x1F3A5, ["movie_camera"]), (0x1F3A6, ["cinema"]),
   (0x1F3A7, ["headphone", "headphones"]), (0x1F3A8, ["art", "artist_palette"]),
   (0x1F3A9, ["top_hat", "tophat"]), (0x1F3AA, ["circus_tent"]), (0x1F3AB, ["ticket"]),
   (0x1F3AC, ["clapper", "clapper_board"]), (0x1F3AD, ["performing_arts"]),
   (0x1F3AE, ["video_game"]), (0x1F3AF, ["dart", "direct_hit"]), (0x1F3B0, ["slot_machine"]),
   (0x1F3B1, ["8ball", "pool_8_ball"]), (0x1F3B2, ["game_die"]), (0x1F3B3, ["bowling"]),
   (0x1F3B4, ["flower_playing_cards"]), (0x1F3B5, ["musical_note"]),
   (0x1F3B6, ["musical_notes", "notes"]), (0x1F3B7, ["saxophone"]), (0x1F3B8, ["guitar"]),
   (0x1F3B9, ["musical_keyboard"]), (0x1F3BA, ["trumpet"]), (0x1F3BB, ["violin"]),
   (0x1F3BC, ["musical_score"]), (0x1F3BD, ["running_shirt", "running_shirt_with_sash"]),
   (0x1F3BE, ["tennis"]), (0x1F3BF, ["ski", "skis"]), (0x1F3C0, ["basketball"]),
   (0x1F3C1, ["checkered_flag", "chequered_flag"]), (0x1F3C2, ["snowboarder"]),
   (0x1F3C3, ["person_running", "runner", "running"]), (0x1F3C4, ["person_surfing", "surfer"]),
   (0x1F3C5, ["sports_medal"]), (0x1F3C6, ["trophy"]), (0x1F3C7, ["horse_racing"]),
   (0x1F3C8, ["american_football", "football"]), (0x1F3C9, ["rugby_football"]),
   (0x1F3CA, ["person_swimming", "swimmer"]),
   (0x1F3CB, ["person_lifting_weights", "weight_lifter"]), (0x1F3CC, ["golfer", "person_golfing"]),
   (0x1F3CD, ["motorcycle", "racing_motorcycle"]), (0x1F3CE, ["racing_car"]),
   (0x1F3CF, ["cricket_bat_and_ball", "cricket_game"]), (0x1F3D0, ["volleyball"]),
   (0x1F3D1, ["field_hockey", "field_hockey_stick_and_ball"]),
   (0x1F3D2, ["ice_hockey", "ice_hockey_stick_and_puck"]),
   (0x1F3D3, ["ping_pong", "table_tennis_paddle_and_ball"]),
   (0x1F3D4, ["snow-capped_mountain", "snow_capped_mountain"]), (0x1F3D5, ["camping"]),
   (0x1F3D6, ["beach_with_umbrella"]), (0x1F3D7, ["building_construction"]),
   (0x1F3D8, ["house_buildings", "houses"]), (0x1F3D9, ["cityscape"]),
   (0x1F3DA, ["derelict_house", "derelict_house_building"]), (0x1F3DB, ["classical_building"]),
   (0x1F3DC, ["desert"]), (0x1F3DD, ["desert_island"]), (0x1F3DE, ["national_park"]),
   (0x1F3DF, ["stadium"]), (0x1F3E0, ["house"]), (0x1F3E1, ["house_with_garden"]),
   (0x1F3E2, ["office", "office_building"]), (0x1F3E3, ["japanese_post_office", "post_office"]),
   (0x1F3E4, ["european_post_office"]), (0x1F3E5, ["hospital"]), (0x1F3E6, ["bank"]),
   (0x1F3E7, ["atm", "atm_sign"]), (0x1F3E8, ["hotel"]), (0x1F3E9, ["love_hotel"]),
   (0x1F3EA, ["convenience_store"]), (0x1F3EB, ["school"]), (0x1F3EC, ["department_store"]),
   (0x1F3ED, ["factory"]), (0x1F3EE, ["izakaya_lantern", "lantern", "red_paper_lantern"]),
   (0x1F3EF, ["japanese_castle"]), (0x1F3F0, ["castle", "european_castle"]),
   (0x1F3F3, ["waving_white_flag", "white_flag"]), (0x1F3F4, ["black_flag", "waving_black_flag"]),
   (0x1F3F5, ["rosette"]), (0x1F3F7, ["label"]),
   (0x1F3F8, ["badminton", "badminton_racquet_and_shuttlecock"]), (0x1F3F9, ["bow_and_arrow"]),
   (0x1F3FA, ["amphora"]), (0x1F3FB, ["emoji_modifier_fitzpatrick_type__1__2", "light_skin_tone"]),
   (0x1F3FC, ["emoji_modifier_fitzpatrick_type__3", "medium_light_skin_tone"]),
   (0x1F3FD, ["emoji_modifier_fitzpatrick_type__4", "medium_skin_tone"]),
   (0x1F3FE, ["emoji_modifier_fitzpatrick_type__5", "medium_dark_skin_tone"]),
   (0x1F3FF, ["dark_skin_tone", "emoji_modifier_fitzpatrick_type__6"])]

set_option maxRecDepth 4096 in
/-- Animals, bodies, persons and their things with their names. -/
def creatureNames : List (Nat × List String) :=
  [(0x1F400, ["rat"]), (0x1F401, ["mouse2"]), (0x1F402, ["ox"]), (0x1F403, ["water_buffalo"]),
   (0x1F404, ["cow2"]), (0x1F405, ["tiger2"]), (0x1F406, ["leopard"]), (0x1F407, ["rabbit2"]),
   (0x1F408, ["cat2"]), (0x1F409, ["dragon"]), (0x1F40A, ["crocodile"]), (0x1F40B, ["whale2"]),
   (0x1F40C, ["snail"]), (0x1F40D, ["snake"]), (0x1F40E, ["racehorse"]), (0x1F40F, ["ram"]),
   (0x1F410, ["goat"]), (0x1F411, ["ewe", "sheep"]), (0x1F412, ["monkey"]), (0x1F413, ["rooster"]),
   (0x1F414, ["chicken"]), (0x1F415, ["dog2"]), (0x1F416, ["pig2"]), (0x1F417, ["boar"]),
   (0x1F418, ["elephant"]), (0x1F419, ["octopus"]), (0x1F41A, ["shell", "spiral_shell"]),
   (0x1F41B, ["bug"]), (0x1F41C, ["ant"]), (0x1F41D, ["bee", "honeybee"]),
   (0x1F41E, ["beetle", "lady_beetle"]), (0x1F41F, ["fish"]), (0x1F420, ["tropical_fish"]),
   (0x1F421, ["blowfish"]), (0x1F422, ["turtle"]), (0x1F423, ["hatching_chick"]),
   (0x1F424, ["baby_chick"]), (0x1F425, ["front-facing_baby_chick", "hatched_chick"]),
   (0x1F426, ["bird"]), (0x1F427, ["penguin"]), (0x1F428, ["koala"]), (0x1F429, ["poodle"]),
   (0x1F42A, ["dromedary_camel"]), (0x1F42B, ["camel", "two-hump_camel"]),
   (0x1F42C, ["dolphin", "flipper"]), (0x1F42D, ["mouse", "mouse_face"]),
   (0x1F42E, ["cow", "cow_face"]), (0x1F42F, ["tiger", "tiger_face"]),
   (0x1F430, ["rabbit", "rabbit_face"]), (0x1F431, ["cat", "cat_face"]), (0x1F432, ["dragon_face"]),
   (0x1F433, ["spouting_whale", "whale"]), (0x1F434, ["horse", "horse_face"]),
   (0x1F435, ["monkey_face"]), (0x1F436, ["dog", "dog_face"]), (0x1F437, ["pig", "pig_face"]),
   (0x1F438, ["frog", "frog_face"]), (0x1F439, ["hamster", "hamster_face"]),
   (0x1F43A, ["wolf", "wolf_face"]), (0x1F43B, ["bear", "bear_face"]), (0x1F43C, ["panda_face"]),
   (0x1F43D, ["pig_nose"]), (0x1F43E, ["feet", "paw_prints"]), (0x1F43F, ["chipmunk"]),
   (0x1F440, ["eyes"]), (0x1F441, ["eye"]), (0x1F442, ["ear"]), (0x1F443, ["nose"]),
   (0x1F444, ["lips", "mouth"]), (0x1F445, ["tongue"]),
   (0x1F446, ["backhand_index_pointing_up", "point_up_2"]),
   (0x1F447, ["backhand_index_pointing_down", "point_down"]),
   (0x1F448, ["backhand_index_pointing_left", "point_left"]),
   (0x1F449, ["backhand_index_pointing_right", "point_right"]),
   (0x1F44A, ["facepunch", "oncoming_fist", "punch"]), (0x1F44B, ["wave", "waving_hand"]),
   (0x1F44C, ["ok_hand"]), (0x1F44D, ["+1", "thumbs_up", "thumbsup"]),
   (0x1F44E, ["-1", "__1", "thumbs_down", "thumbsdown"]), (0x1F44F, ["clap", "clapping_hands"]),
   (0x1F450, ["open_hands"]), (0x1F451, ["crown"]), (0x1F452, ["womans_hat", "woman’s_hat"]),
   (0x1F453, ["eyeglasses", "glasses"]), (0x1F454, ["necktie"]),
   (0x1F455, ["shirt", "t-shirt", "tshirt"]), (0x1F456, ["jeans"]), (0x1F457, ["dress"]),
   (0x1F458, ["kimono"]), (0x1F459, ["bikini"]), (0x1F45A, ["womans_clothes", "woman’s_clothes"]),
   (0x1F45B, ["purse"]), (0x1F45C, ["handbag"]), (0x1F45D, ["clutch_bag", "pouch"]),
   (0x1F45E, ["mans_shoe", "man’s_shoe", "shoe"]), (0x1F45F, ["athletic_shoe", "running_shoe"]),
   (0x1F460, ["high-heeled_shoe", "high_heel"]), (0x1F461, ["sandal", "woman’s_sandal"]),
   (0x1F462, ["boot", "woman’s_boot"]), (0x1F463, ["footprints"]),
   (0x1F464, ["bust_in_silhouette"]), (0x1F465, ["busts_in_silhouette"]), (0x1F466, ["boy"]),
   (0x1F467, ["girl"]), (0x1F468, ["man"]), (0x1F469, ["woman"]), (0x1F46A, ["family"]),
   (0x1F46B, ["couple", "man_and_woman_holding_hands"]), (0x1F46C, ["two_men_holding_hands"]),
   (0x1F46D, ["two_women_holding_hands"]), (0x1F46E, ["cop", "police_officer"]),
   (0x1F46F, ["dancers", "people_with_bunny_ears"]), (0x1F470, ["bride_with_veil"]),
   (0x1F471, ["blond-haired_person", "person_with_blond_hair"]),
   (0x1F472, ["man_with_chinese_cap", "man_with_gua_pi_mao"]),
   (0x1F473, ["man_with_turban", "person_wearing_turban"]), (0x1F474, ["old_man", "older_man"]),
   (0x1F475, ["old_woman", "older_woman"]), (0x1F476, ["baby"]), (0x1F477, ["construction_worker"]),
   (0x1F478, ["princess"]), (0x1F479, ["japanese_ogre", "ogre"]),
   (0x1F47A, ["goblin", "japanese_goblin"]), (0x1F47B, ["ghost"]),
   (0x1F47C, ["angel", "baby_angel"]), (0x1F47D, ["alien"]),
   (0x1F47E, ["alien_monster", "space_invader"]), (0x1F47F, ["angry_face_with_horns", "imp"]),
   (0x1F480, ["skull"]), (0x1F481, ["information_desk_person", "person_tipping_hand"]),
   (0x1F482, ["guard", "guardsman"]), (0x1F483, ["dancer", "woman_dancing"]),
   (0x1F484, ["lipstick"]), (0x1F485, ["nail_care", "nail_polish"]),
   (0x1F486, ["massage", "person_getting_massage"]),
   (0x1F487, ["haircut", "person_getting_haircut"]), (0x1F488, ["barber", "barber_pole"]),
   (0x1F489, ["syringe"]), (0x1F48A, ["pill"]), (0x1F48B, ["kiss", "kiss_mark"]),
   (0x1F48C, ["love_letter"]), (0x1F48D, ["ring"]), (0x1F48E, ["gem", "gem_stone"]),
   (0x1F48F, ["couplekiss"]), (0x1F490, ["bouquet"]), (0x1F491, ["couple_with_heart"]),
   (0x1F492, ["wedding"]), (0x1F493, ["beating_heart", "heartbeat"]), (0x1F494, ["broken_heart"]),
   (0x1F495, ["two_hearts"]), (0x1F496, ["sparkling_heart"]),
   (0x1F497, ["growing_heart", "heartpulse"]), (0x1F498, ["cupid", "heart_with_arrow"]),
   (0x1F499, ["blue_heart"]), (0x1F49A, ["green_heart"]), (0x1F49B, ["yellow_heart"]),
   (0x1F49C, ["purple_heart"]), (0x1F49D, ["gift_heart", "heart_with_ribbon"]),
   (0x1F49E, ["revolving_hearts"]), (0x1F49F, ["heart_decoration"]),
   (0x1F4A0, ["diamond_shape_with_a_dot_inside", "diamond_with_a_dot"]),
   (0x1F4A1, ["bulb", "light_bulb"]), (0x1F4A2, ["anger", "anger_symbol"]), (0x1F4A3, ["bomb"]),
   (0x1F4A4, ["zzz"]), (0x1F4A5, ["boom", "collision"]),
   (0x1F4A6, ["sweat_droplets", "sweat_drops"]), (0x1F4A7, ["droplet"]),
   (0x1F4A8, ["dash", "dashing_away"]), (0x1F4A9, ["hankey", "pile_of_poo", "poop", "shit"]),
   (0x1F4AA, ["flexed_biceps", "muscle"]), (0x1F4AB, ["dizzy"]), (0x1F4AC, ["speech_balloon"]),
   (0x1F4AD, ["thought_balloon"]), (0x1F4AE, ["white_flower"]),
   (0x1F4AF, ["100", "hundred_points"]), (0x1F4B0, ["money_bag", "moneybag"]),
   (0x1F4B1, ["currency_exchange"]), (0x1F4B2, ["heavy_dollar_sign"]), (0x1F4B3, ["credit_card"]),
   (0x1F4B4, ["yen", "yen_banknote"]), (0x1F4B5, ["dollar", "dollar_banknote"]),
   (0x1F4B6, ["euro", "euro_banknote"]), (0x1F4B7, ["pound", "pound_banknote"]),
   (0x1F4B8, ["money_with_wings"]), (0x1F4B9, ["chart", "chart_increasing_with_yen"]),
   (0x1F4BA, ["seat"]), (0x1F4BB, ["computer", "laptop_computer"]), (0x1F4BC, ["briefcase"]),
   (0x1F4BD, ["computer_disk", "minidisc"]), (0x1F4BE, ["floppy_disk"]),
   (0x1F4BF, ["cd", "optical_disk"]), (0x1F4C0, ["dvd"]), (0x1F4C1, ["file_folder"]),
   (0x1F4C2, ["open_file_folder"]), (0x1F4C3, ["page_with_curl"]), (0x1F4C4, ["page_facing_up"]),
   (0x1F4C5, ["date"]), (0x1F4C6, ["calendar", "tear-off_calendar"]), (0x1F4C7, ["card_index"]),
   (0x1F4C8, ["chart_increasing", "chart_with_upwards_trend"]),
   (0x1F4C9, ["chart_decreasing", "chart_with_downwards_trend"]), (0x1F4CA, ["bar_chart"]),
   (0x1F4CB, ["clipboard"]), (0x1F4CC, ["pushpin"]), (0x1F4CD, ["round_pushpin"]),
   (0x1F4CE, ["paperclip"]), (0x1F4CF, ["straight_ruler"]), (0x1F4D0, ["triangular_ruler"]),
   (0x1F4D1, ["bookmark_tabs"]), (0x1F4D2, ["ledger"]), (0x1F4D3, ["notebook"]),
   (0x1F4D4, ["notebook_with_decorative_cover"]), (0x1F4D5, ["closed_book"]),
   (0x1F4D6, ["book", "open_book"]), (0x1F4D7, ["green_book"]), (0x1F4D8, ["blue_book"]),
   (0x1F4D9, ["orange_book"]), (0x1F4DA, ["books"]), (0x1F4DB, ["name_badge"]),
   (0x1F4DC, ["scroll"]), (0x1F4DD, ["memo", "pencil"]), (0x1F4DE, ["telephone_receiver"]),
   (0x1F4DF, ["pager"]), (0x1F4E0, ["fax", "fax_machine"]),
   (0x1F4E1, ["satellite", "satellite_antenna"]), (0x1F4E2, ["loudspeaker"]),
   (0x1F4E3, ["mega", "megaphone"]), (0x1F4E4, ["outbox_tray"]), (0x1F4E5, ["inbox_tray"]),
   (0x1F4E6, ["package"]), (0x1F4E7, ["e-mail", "e__mail"]), (0x1F4E8, ["incoming_envelope"]),
   (0x1F4E9, ["envelope_with_arrow"]),
   (0x1F4EA, ["closed_mailbox_with_lowered_flag", "mailbox_closed"]),
   (0x1F4EB, ["closed_mailbox_with_raised_flag", "mailbox"]),
   (0x1F4EC, ["mailbox_with_mail", "open_mailbox_with_raised_flag"]),
   (0x1F4ED, ["mailbox_with_no_mail", "open_mailbox_with_lowered_flag"]), (0x1F4EE, ["postbox"]),
   (0x1F4EF, ["postal_horn"]), (0x1F4F0, ["newspaper"]), (0x1F4F1, ["iphone", "mobile_phone"]),
   (0x1F4F2, ["calling", "mobile_phone_with_arrow"]), (0x1F4F3, ["vibration_mode"]),
   (0x1F4F4, ["mobile_phone_off"]), (0x1F4F5, ["no_mobile_phones"]),
   (0x1F4F6, ["antenna_bars", "signal_strength"]), (0x1F4F7, ["camera"]),
   (0x1F4F8, ["camera_with_flash"]), (0x1F4F9, ["video_camera"]), (0x1F4FA, ["television", "tv"]),
   (0x1F4FB, ["radio"]), (0x1F4FC, ["vhs", "videocassette"]), (0x1F4FD, ["film_projector"]),
   (0x1F4FF, ["prayer_beads"])]

set_option maxRecDepth 4096 in
/-- Further things, hearts, clocks and holy places with their names. -/
def objectNames : List (Nat × List String) :=
  [(0x1F500, ["shuffle_tracks_button", "twisted_rightwards_arrows"]),
   (0x1F501, ["repeat", "repeat_button"]), (0x1F502, ["repeat_one", "repeat_single_button"]),
   (0x1F503, ["arrows_clockwise", "clockwise_vertical_arrows"]),
   (0x1F504, ["arrows_counterclockwise", "counterclockwise_arrows_button"]),
   (0x1F505, ["dim_button", "low_brightness"]), (0x1F506, ["bright_button", "high_brightness"]),
   (0x1F507, ["mute", "muted_speaker"]), (0x1F508, ["speaker", "speaker_low_volume"]),
   (0x1F509, ["sound", "speaker_medium_volume"]), (0x1F50A, ["loud_sound", "speaker_high_volume"]),
   (0x1F50B, ["battery"]), (0x1F50C, ["electric_plug"]),
   (0x1F50D, ["mag", "magnifying_glass_tilted_left"]),
   (0x1F50E, ["mag_right", "magnifying_glass_tilted_right"]),
   (0x1F50F, ["lock_with_ink_pen", "locked_with_pen"]),
   (0x1F510, ["closed_lock_with_key", "locked_with_key"]), (0x1F511, ["key"]),
   (0x1F512, ["lock", "locked"]), (0x1F513, ["unlock", "unlocked"]), (0x1F514, ["bell"]),
   (0x1F515, ["bell_with_slash", "no_bell"]), (0x1F516, ["bookmark"]), (0x1F517, ["link"]),
   (0x1F518, ["radio_button"]), (0x1F519, ["back", "back_arrow"]), (0x1F51A, ["end", "end_arrow"]),
   (0x1F51B, ["on", "on!_arrow"]), (0x1F51C, ["soon", "soon_arrow"]),
   (0x1F51D, ["top", "top_arrow"]), (0x1F51E, ["no_one_under_eighteen", "underage"]),
   (0x1F51F, ["keycap_10", "ten"]), (0x1F520, ["capital_abcd", "input_latin_uppercase"]),
   (0x1F521, ["abcd", "input_latin_lowercase"]), (0x1F522, ["1234", "input_numbers"]),
   (0x1F523, ["input_symbols", "symbols"]), (0x1F524, ["abc", "input_latin_letters"]),
   (0x1F525, ["fire"]), (0x1F526, ["flashlight"]), (0x1F527, ["wrench"]), (0x1F528, ["hammer"]),
   (0x1F529, ["nut_and_bolt"]), (0x1F52A, ["hocho", "kitchen_knife", "knife"]),
   (0x1F52B, ["gun", "pistol"]), (0x1F52C, ["microscope"]), (0x1F52D, ["telescope"]),
   (0x1F52E, ["crystal_ball"]), (0x1F52F, ["dotted_six-pointed_star", "six_pointed_star"]),
   (0x1F530, ["beginner", "japanese_symbol_for_beginner"]),
   (0x1F531, ["trident", "trident_emblem"]), (0x1F532, ["black_square_button"]),
   (0x1F533, ["white_square_button"]), (0x1F534, ["red_circle"]),
   (0x1F535, ["blue_circle", "large_blue_circle"]), (0x1F536, ["large_orange_diamond"]),
   (0x1F537, ["large_blue_diamond"]), (0x1F538, ["small_orange_diamond"]),
   (0x1F539, ["small_blue_diamond"]), (0x1F53A, ["red_triangle_pointed_up", "small_red_triangle"]),
   (0x1F53B, ["red_triangle_pointed_down", "small_red_triangle_down"]),
   (0x1F53C, ["arrow_up_small", "upwards_button"]),
   (0x1F53D, ["arrow_down_small", "downwards_button"]), (0x1F549, ["om", "om_symbol"]),
   (0x1F54A, ["dove", "dove_of_peace"]), (0x1F54B, ["kaaba"]), (0x1F54C, ["mosque"]),
   (0x1F54D, ["synagogue"]), (0x1F54E, ["menorah", "menorah_with_nine_branches"]),
   (0x1F550, ["clock1", "one_o’clock"]), (0x1F551, ["clock2", "two_o’clock"]),
   (0x1F552, ["clock3", "three_o’clock"]), (0x1F553, ["clock4", "four_o’clock"]),
   (0x1F554, ["clock5", "five_o’clock"]), (0x1F555, ["clock6", "six_o’clock"]),
   (0x1F556, ["clock7", "seven_o’clock"]), (0x1F557, ["clock8", "eight_o’clock"]),
   (0x1F558, ["clock9", "nine_o’clock"]), (0x1F559, ["clock10", "ten_o’clock"]),
   (0x1F55A, ["clock11", "eleven_o’clock"]), (0x1F55B, ["clock12", "twelve_o’clock"]),
   (0x1F55C, ["clock130", "one-thirty"]), (0x1F55D, ["clock230", "two-thirty"]),
   (0x1F55E, ["clock330", "three-thirty"]), (0x1F55F, ["clock430", "four-thirty"]),
   (0x1F560, ["clock530", "five-thirty"]), (0x1F561, ["clock630", "six-thirty"]),
   (0x1F562, ["clock730", "seven-thirty"]), (0x1F563, ["clock830", "eight-thirty"]),
   (0x1F564, ["clock930", "nine-thirty"]), (0x1F565, ["clock1030", "ten-thirty"]),
   (0x1F566, ["clock1130", "eleven-thirty"]), (0x1F567, ["clock1230", "twelve-thirty"]),
   (0x1F56F, ["candle"]), (0x1F570, ["mantelpiece_clock"]), (0x1F573, ["hole"]),
   (0x1F574, ["man_in_business_suit_levitating", "man_in_suit_levitating"]),
   (0x1F575, ["detective", "sleuth_or_spy"]), (0x1F576, ["dark_sunglasses"]), (0x1F577, ["spider"]),
   (0x1F578, ["spider_web"]), (0x1F579, ["joystick"]), (0x1F57A, ["man_dancing"]),
   (0x1F587, ["linked_paperclips"]), (0x1F58A, ["lower_left_ballpoint_pen", "pen"]),
   (0x1F58B, ["fountain_pen", "lower_left_fountain_pen"]),
   (0x1F58C, ["lower_left_paintbrush", "paintbrush"]), (0x1F58D, ["crayon", "lower_left_crayon"]),
   (0x1F590, ["hand_with_fingers_splayed", "raised_hand_with_fingers_splayed"]),
   (0x1F595, ["middle_finger", "reversed_hand_with_middle_finger_extended"]),
   (0x1F596, ["raised_hand_with_part_between_middle_and_ring_fingers", "vulcan_salute"]),
   (0x1F5A4, ["black_heart"]), (0x1F5A5, ["desktop_computer"]), (0x1F5A8, ["printer"]),
   (0x1F5B1, ["computer_mouse", "three_button_mouse"]), (0x1F5B2, ["trackball"]),
   (0x1F5BC, ["frame_with_picture", "framed_picture"]), (0x1F5C2, ["card_index_dividers"]),
   (0x1F5C3, ["card_file_box"]), (0x1F5C4, ["file_cabinet"]), (0x1F5D1, ["wastebasket"]),
   (0x1F5D2, ["spiral_note_pad", "spiral_notepad"]),
   (0x1F5D3, ["spiral_calendar", "spiral_calendar_pad"]), (0x1F5DC, ["clamp", "compression"]),
   (0x1F5DD, ["old_key"]), (0x1F5DE, ["rolled-up_newspaper", "rolled__up_newspaper"]),
   (0x1F5E1, ["dagger", "dagger_knife"]),
   (0x1F5E3, ["speaking_head", "speaking_head_in_silhouette"]), (0x1F5E8, ["left_speech_bubble"]),
   (0x1F5EF, ["right_anger_bubble"]), (0x1F5F3, ["ballot_box_with_ballot"]),
   (0x1F5FA, ["world_map"]), (0x1F5FB, ["mount_fuji"]), (0x1F5FC, ["tokyo_tower"]),
   (0x1F5FD, ["statue_of_liberty"]), (0x1F5FE, ["japan", "map_of_japan"]),
   (0x1F5FF, ["moai", "moyai"])]

set_option maxRecDepth 4096 in
/-- Faces and gestures, and what is found on roads, with their names. -/
def faceNames : List (Nat × List String) :=
  [(0x1F600, ["grinning", "grinning_face"]), (0x1F601, ["beaming_face_with_smiling_eyes", "grin"]),
   (0x1F602, ["face_with_tears_of_joy", "joy"]),
   (0x1F603, ["grinning_face_with_big_eyes", "smiley"]),
   (0x1F604, ["grinning_face_with_smiling_eyes", "smile"]),
   (0x1F605, ["grinning_face_with_sweat", "sweat_smile"]),
   (0x1F606, ["grinning_squinting_face", "laughing", "satisfied"]),
   (0x1F607, ["innocent", "smiling_face_with_halo"]),
   (0x1F608, ["smiling_face_with_horns", "smiling_imp"]), (0x1F609, ["wink", "winking_face"]),
   (0x1F60A, ["blush", "smiling_face_with_smiling_eyes"]), (0x1F60B, ["face_savoring_food", "yum"]),
   (0x1F60C, ["relieved", "relieved_face"]),
   (0x1F60D, ["heart_eyes", "smiling_face_with_heart-eyes"]),
   (0x1F60E, ["smiling_face_with_sunglasses", "sunglasses"]), (0x1F60F, ["smirk", "smirking_face"]),
   (0x1F610, ["neutral_face"]), (0x1F611, ["expressionless", "expressionless_face"]),
   (0x1F612, ["unamused", "unamused_face"]), (0x1F613, ["downcast_face_with_sweat", "sweat"]),
   (0x1F614, ["pensive", "pensive_face"]), (0x1F615, ["confused", "confused_face"]),
   (0x1F616, ["confounded", "confounded_face"]), (0x1F617, ["kissing", "kissing_face"]),
   (0x1F618, ["face_blowing_a_kiss", "kissing_heart"]),
   (0x1F619, ["kissing_face_with_smiling_eyes", "kissing_smiling_eyes"]),
   (0x1F61A, ["kissing_closed_eyes", "kissing_face_with_closed_eyes"]),
   (0x1F61B, ["face_with_tongue", "stuck_out_tongue"]),
   (0x1F61C, ["stuck_out_tongue_winking_eye", "winking_face_with_tongue"]),
   (0x1F61D, ["squinting_face_with_tongue", "stuck_out_tongue_closed_eyes"]),
   (0x1F61E, ["disappointed", "disappointed_face"]), (0x1F61F, ["worried", "worried_face"]),
   (0x1F620, ["angry", "angry_face"]), (0x1F621, ["pouting_face", "rage"]),
   (0x1F622, ["cry", "crying_face"]), (0x1F623, ["persevere", "persevering_face"]),
   (0x1F624, ["face_with_steam_from_nose", "triumph"]),
   (0x1F625, ["disappointed_relieved", "sad_but_relieved_face"]),
   (0x1F626, ["frowning", "frowning_face_with_open_mouth"]),
   (0x1F627, ["anguished", "anguished_face"]), (0x1F628, ["fearful", "fearful_face"]),
   (0x1F629, ["weary", "weary_face"]), (0x1F62A, ["sleepy", "sleepy_face"]),
   (0x1F62B, ["tired_face"]), (0x1F62C, ["grimacing", "grimacing_face"]),
   (0x1F62D, ["loudly_crying_face", "sob"]), (0x1F62E, ["face_with_open_mouth", "open_mouth"]),
   (0x1F62F, ["hushed", "hushed_face"]), (0x1F630, ["anxious_face_with_sweat", "cold_sweat"]),
   (0x1F631, ["face_screaming_in_fear", "scream"]), (0x1F632, ["astonished", "astonished_face"]),
   (0x1F633, ["flushed", "flushed_face"]), (0x1F634, ["sleeping", "sleeping_face"]),
   (0x1F635, ["dizzy_face"]), (0x1F636, ["face_without_mouth", "no_mouth"]),
   (0x1F637, ["face_with_medical_mask", "mask"]),
   (0x1F638, ["grinning_cat_face_with_smiling_eyes", "smile_cat"]),
   (0x1F639, ["cat_face_with_tears_of_joy", "joy_cat"]),
   (0x1F63A, ["grinning_cat_face", "smiley_cat"]),
   (0x1F63B, ["heart_eyes_cat", "smiling_cat_face_with_heart-eyes"]),
   (0x1F63C, ["cat_face_with_wry_smile", "smirk_cat"]),
   (0x1F63D, ["kissing_cat", "kissing_cat_face"]), (0x1F63E, ["pouting_cat", "pouting_cat_face"]),
   (0x1F63F, ["crying_cat_face"]), (0x1F640, ["scream_cat", "weary_cat_face"]),
   (0x1F641, ["slightly_frowning_face"]), (0x1F642, ["slightly_smiling_face"]),
   (0x1F643, ["upside-down_face", "upside__down_face"]), (0x1F644, ["face_with_rolling_eyes"]),
   (0x1F645, ["no_good", "person_gesturing_no"]), (0x1F646, ["ok_woman", "person_gesturing_ok"]),
   (0x1F647, ["bow", "person_bowing"]), (0x1F648, ["see-no-evil_monkey", "see_no_evil"]),
   (0x1F649, ["hear-no-evil_monkey", "hear_no_evil"]),
   (0x1F64A, ["speak-no-evil_monkey", "speak_no_evil"]),
   (0x1F64B, ["person_raising_hand", "raising_hand"]), (0x1F64C, ["raised_hands", "raising_hands"]),
   (0x1F64D, ["person_frowning"]), (0x1F64E, ["person_pouting", "person_with_pouting_face"]),
   (0x1F64F, ["folded_hands", "pray"]), (0x1F680, ["rocket"]), (0x1F681, ["helicopter"]),
   (0x1F682, ["locomotive", "steam_locomotive"]), (0x1F683, ["railway_car"]),
   (0x1F684, ["bullettrain_side", "high-speed_train"]),
   (0x1F685, ["bullet_train", "bullettrain_front"]), (0x1F686, ["train2"]), (0x1F687, ["metro"]),
   (0x1F688, ["light_rail"]), (0x1F689, ["station"]), (0x1F68A, ["tram"]),
   (0x1F68B, ["train", "tram_car"]), (0x1F68C, ["bus"]), (0x1F68D, ["oncoming_bus"]),
   (0x1F68E, ["trolleybus"]), (0x1F68F, ["bus_stop", "busstop"]), (0x1F690, ["minibus"]),
   (0x1F691, ["ambulance"]), (0x1F692, ["fire_engine"]), (0x1F693, ["police_car"]),
   (0x1F694, ["oncoming_police_car"]), (0x1F695, ["taxi"]), (0x1F696, ["oncoming_taxi"]),
   (0x1F697, ["automobile", "car", "red_car"]), (0x1F698, ["oncoming_automobile"]),
   (0x1F699, ["blue_car", "sport_utility_vehicle"]), (0x1F69A, ["delivery_truck", "truck"]),
   (0x1F69B, ["articulated_lorry"]), (0x1F69C, ["tractor"]), (0x1F69D, ["monorail"]),
   (0x1F69E, ["mountain_railway"]), (0x1F69F, ["suspension_railway"]),
   (0x1F6A0, ["mountain_cableway"]), (0x1F6A1, ["aerial_tramway"]), (0x1F6A2, ["ship"]),
   (0x1F6A3, ["person_rowing_boat", "rowboat"]), (0x1F6A4, ["speedboat"]),
   (0x1F6A5, ["horizontal_traffic_light", "traffic_light"]), (0x1F6A6, ["vertical_traffic_light"]),
   (0x1F6A7, ["construction"]), (0x1F6A8, ["police_car_light", "rotating_light"]),
   (0x1F6A9, ["triangular_flag", "triangular_flag_on_post"]), (0x1F6AA, ["door"]),
   (0x1F6AB, ["no_entry_sign", "prohibited"]), (0x1F6AC, ["cigarette", "smoking"]),
   (0x1F6AD, ["no_smoking"]), (0x1F6AE, ["litter_in_bin_sign", "put_litter_in_its_place"]),
   (0x1F6AF, ["do_not_litter", "no_littering"]), (0x1F6B0, ["potable_water"]),
   (0x1F6B1, ["non-potable_water", "non__potable_water"]), (0x1F6B2, ["bicycle", "bike"]),
   (0x1F6B3, ["no_bicycles"]), (0x1F6B4, ["bicyclist", "person_biking"]),
   (0x1F6B5, ["mountain_bicyclist", "person_mountain_biking"]),
   (0x1F6B6, ["person_walking", "walking"]), (0x1F6B7, ["no_pedestrians"]),
   (0x1F6B8, ["children_crossing"]), (0x1F6B9, ["mens", "men’s_room"]),
   (0x1F6BA, ["womens", "women’s_room"]), (0x1F6BB, ["restroom"]), (0x1F6BC, ["baby_symbol"]),
   (0x1F6BD, ["toilet"]), (0x1F6BE, ["water_closet", "wc"]), (0x1F6BF, ["shower"]),
   (0x1F6C0, ["bath", "person_taking_bath"]), (0x1F6C1, ["bathtub"]),
   (0x1F6C2, ["passport_control"]), (0x1F6C3, ["customs"]), (0x1F6C4, ["baggage_claim"]),
   (0x1F6C5, ["left_luggage"]), (0x1F6CB, ["couch_and_lamp"]),
   (0x1F6CC, ["person_in_bed", "sleeping_accommodation"]), (0x1F6CD, ["shopping_bags"]),
   (0x1F6CE, ["bellhop_bell"]), (0x1F6CF, ["bed"]), (0x1F6D0, ["place_of_worship"]),
   (0x1F6D1, ["stop_sign"]), (0x1F6D2, ["shopping_cart"]), (0x1F6D5, ["hindu_temple"]),
   (0x1F6E0, ["hammer_and_wrench"]), (0x1F6E1, ["shield"]), (0x1F6E2, ["oil_drum"]),
   (0x1F6E3, ["motorway"]), (0x1F6E4, ["railway_track"]), (0x1F6E5, ["motor_boat"]),
   (0x1F6E9, ["small_airplane"]), (0x1F6EB, ["airplane_departure"]),
   (0x1F6EC, ["airplane_arrival", "airplane_arriving"]), (0x1F6F3, ["passenger_ship"]),
   (0x1F6F4, ["kick_scooter"]), (0x1F6F5, ["motor_scooter"]), (0x1F6F6, ["canoe"]),
   (0x1F6F7, ["sled"]), (0x1F6F8, ["flying_saucer"]), (0x1F6F9, ["skateboard"]),
   (0x1F6FA, ["auto_rickshaw"])]

set_option maxRecDepth 4096 in
/-- Emoji that were added later, with their names. -/
def laterNames : List (Nat × List String) :=
  [(0x1F7E0, ["orange_circle"]), (0x1F7E1, ["yellow_circle"]), (0x1F7E2, ["green_circle"]),
   (0x1F7E3, ["purple_circle"]), (0x1F7E4, ["brown_circle"]), (0x1F7E5, ["red_square"]),
   (0x1F7E6, ["blue_square"]), (0x1F7E7, ["orange_square"]), (0x1F7E8, ["yellow_square"]),
   (0x1F7E9, ["green_square"]), (0x1F7EA, ["purple_square"]), (0x1F7EB, ["brown_square"]),
   (0x1F90D, ["white_heart"]), (0x1F90E, ["brown_heart"]), (0x1F90F, ["pinching_hand"]),
   (0x1F910, ["zipper-mouth_face", "zipper__mouth_face"]),
   (0x1F911, ["money-mouth_face", "money__mouth_face"]), (0x1F912, ["face_with_thermometer"]),
   (0x1F913, ["nerd_face"]), (0x1F914, ["thinking_face"]),
   (0x1F915, ["face_with_head-bandage", "face_with_head__bandage"]),
   (0x1F916, ["robot", "robot_face"]), (0x1F917, ["hugging_face"]),
   (0x1F918, ["sign_of_the_horns"]), (0x1F919, ["call_me_hand"]),
   (0x1F91A, ["raised_back_of_hand"]), (0x1F91B, ["left-facing_fist"]),
   (0x1F91C, ["right-facing_fist"]), (0x1F91D, ["handshake"]), (0x1F91E, ["crossed_fingers"]),
   (0x1F91F, ["love-you_gesture"]), (0x1F920, ["cowboy_hat_face"]), (0x1F921, ["clown_face"]),
   (0x1F922, ["nauseated_face"]), (0x1F923, ["rolling_on_the_floor_laughing"]),
   (0x1F924, ["drooling_face"]), (0x1F925, ["lying_face"]), (0x1F926, ["person_facepalming"]),
   (0x1F927, ["sneezing_face"]), (0x1F928, ["face_with_raised_eyebrow"]),
   (0x1F929, ["star-struck"]), (0x1F92A, ["zany_face"]), (0x1F92B, ["shushing_face"]),
   (0x1F92C, ["face_with_symbols_on_mouth"]), (0x1F92D, ["face_with_hand_over_mouth"]),
   (0x1F92E, ["face_vomiting"]), (0x1F92F, ["exploding_head"]), (0x1F930, ["pregnant_woman"]),
   (0x1F931, ["breast-feeding"]), (0x1F932, ["palms_up_together"]), (0x1F933, ["selfie"]),
   (0x1F934, ["prince"]), (0x1F935, ["man_in_tuxedo"]), (0x1F936, ["mrs._claus"]),
   (0x1F937, ["person_shrugging"]), (0x1F938, ["person_cartwheeling"]),
   (0x1F939, ["person_juggling"]), (0x1F93A, ["person_fencing"]), (0x1F93C, ["people_wrestling"]),
   (0x1F93D, ["person_playing_water_polo"]), (0x1F93E, ["person_playing_handball"]),
   (0x1F93F, ["diving_mask"]), (0x1F940, ["wilted_flower"]), (0x1F941, ["drum"]),
   (0x1F942, ["clinking_glasses"]), (0x1F943, ["tumbler_glass"]), (0x1F944, ["spoon"]),
   (0x1F945, ["goal_net"]), (0x1F947, ["1st_place_medal"]), (0x1F948, ["2nd_place_medal"]),
   (0x1F949, ["3rd_place_medal"]), (0x1F94A, ["boxing_glove"]), (0x1F94B, ["martial_arts_uniform"]),
   (0x1F94C, ["curling_stone"]), (0x1F94D, ["lacrosse"]), (0x1F94E, ["softball"]),
   (0x1F94F, ["flying_disc"]), (0x1F950, ["croissant"]), (0x1F951, ["avocado"]),
   (0x1F952, ["cucumber"]), (0x1F953, ["bacon"]), (0x1F954, ["potato"]), (0x1F955, ["carrot"]),
   (0x1F956, ["baguette_bread"]), (0x1F957, ["green_salad"]), (0x1F958, ["shallow_pan_of_food"]),
   (0x1F959, ["stuffed_flatbread"]), (0x1F95B, ["glass_of_milk"]), (0x1F95C, ["peanuts"]),
   (0x1F95D, ["kiwi_fruit"]), (0x1F95E, ["pancakes"]), (0x1F95F, ["dumpling"]),
   (0x1F960, ["fortune_cookie"]), (0x1F961, ["takeout_box"]), (0x1F962, ["chopsticks"]),
   (0x1F963, ["bowl_with_spoon"]), (0x1F964, ["cup_with_straw"]), (0x1F965, ["coconut"]),
   (0x1F966, ["broccoli"]), (0x1F967, ["pie"]), (0x1F968, ["pretzel"]), (0x1F969, ["cut_of_meat"]),
   (0x1F96A, ["sandwich"]), (0x1F96B, ["canned_food"]), (0x1F96C, ["leafy_green"]),
   (0x1F96D, ["mango"]), (0x1F96E, ["moon_cake"]), (0x1F96F, ["bagel"]),
   (0x1F970, ["smiling_face_with_3_hearts"]), (0x1F971, ["yawning_face"]),
   (0x1F973, ["partying_face"]), (0x1F974, ["woozy_face"]), (0x1F975, ["hot_face"]),
   (0x1F976, ["cold_face"]), (0x1F97A, ["pleading_face"]), (0x1F97B, ["sari"]),
   (0x1F97C, ["lab_coat"]), (0x1F97D, ["goggles"]), (0x1F97E, ["hiking_boot"]),
   (0x1F97F, ["flat_shoe"]), (0x1F980, ["crab"]), (0x1F981, ["lion_face"]), (0x1F982, ["scorpion"]),
   (0x1F983, ["turkey"]), (0x1F984, ["unicorn_face"]), (0x1F985, ["eagle"]), (0x1F986, ["duck"]),
   (0x1F987, ["bat"]), (0x1F988, ["shark"]), (0x1F989, ["owl"]), (0x1F98A, ["fox_face"]),
   (0x1F98B, ["butterfly"]), (0x1F98C, ["deer"]), (0x1F98D, ["gorilla"]), (0x1F98E, ["lizard"]),
   (0x1F98F, ["rhinoceros"]), (0x1F990, ["shrimp"]), (0x1F991, ["squid"]), (0x1F992, ["giraffe"]),
   (0x1F993, ["zebra"]), (0x1F994, ["hedgehog"]), (0x1F995, ["sauropod"]), (0x1F996, ["t-rex"]),
   (0x1F997, ["cricket"]), (0x1F998, ["kangaroo"]), (0x1F999, ["llama"]), (0x1F99A, ["peacock"]),
   (0x1F99B, ["hippopotamus"]), (0x1F99C, ["parrot"]), (0x1F99D, ["raccoon"]),
   (0x1F99E, ["lobster"]), (0x1F99F, ["mosquito"]), (0x1F9A0, ["microbe"]), (0x1F9A1, ["badger"]),
   (0x1F9A2, ["swan"]), (0x1F9A5, ["sloth"]), (0x1F9A6, ["otter"]), (0x1F9A7, ["orangutan"]),
   (0x1F9A8, ["skunk"]), (0x1F9A9, ["flamingo"]), (0x1F9AA, ["oyster"]), (0x1F9AE, ["guide_dog"]),
   (0x1F9AF, ["probing_cane"]), (0x1F9B0, ["red_hair"]), (0x1F9B1, ["curly_hair"]),
   (0x1F9B2, ["bald"]), (0x1F9B3, ["white_hair"]), (0x1F9B4, ["bone"]), (0x1F9B5, ["leg"]),
   (0x1F9B6, ["foot"]), (0x1F9B7, ["tooth"]), (0x1F9B8, ["superhero"]), (0x1F9B9, ["supervillain"]),
   (0x1F9BA, ["safety_vest"]), (0x1F9BB, ["ear_with_hearing_aid"]),
   (0x1F9BC, ["motorized_wheelchair"]), (0x1F9BD, ["manual_wheelchair"]),
   (0x1F9BE, ["mechanical_arm"]), (0x1F9BF, ["mechanical_leg"]), (0x1F9C0, ["cheese_wedge"]),
   (0x1F9C1, ["cupcake"]), (0x1F9C2, ["salt"]), (0x1F9C3, ["beverage_box"]), (0x1F9C4, ["garlic"]),
   (0x1F9C5, ["onion"]), (0x1F9C6, ["falafel"]), (0x1F9C7, ["waffle"]), (0x1F9C8, ["butter"]),
   (0x1F9C9, ["mate"]), (0x1F9CA, ["ice"]), (0x1F9CD, ["person_standing"]),
   (0x1F9CE, ["person_kneeling"]), (0x1F9CF, ["deaf_person"]), (0x1F9D0, ["face_with_monocle"]),
   (0x1F9D1, ["adult"]), (0x1F9D2, ["child"]), (0x1F9D3, ["older_adult"]),
   (0x1F9D4, ["bearded_person"]), (0x1F9D5, ["woman_with_headscarf"]),
   (0x1F9D6, ["person_in_steamy_room"]), (0x1F9D7, ["person_climbing"]),
   (0x1F9D8, ["person_in_lotus_position"]), (0x1F9D9, ["mage"]), (0x1F9DA, ["fairy"]),
   (0x1F9DB, ["vampire"]), (0x1F9DC, ["merperson"]), (0x1F9DD, ["elf"]), (0x1F9DE, ["genie"]),
   (0x1F9DF, ["zombie"]), (0x1F9E0, ["brain"]), (0x1F9E1, ["orange_heart"]),
   (0x1F9E2, ["billed_cap"]), (0x1F9E3, ["scarf"]), (0x1F9E4, ["gloves"]), (0x1F9E5, ["coat"]),
   (0x1F9E6, ["socks"]), (0x1F9E7, ["red_envelope"]), (0x1F9E8, ["firecracker"]),
   (0x1F9E9, ["jigsaw"]), (0x1F9EA, ["test_tube"]), (0x1F9EB, ["petri_dish"]), (0x1F9EC, ["dna"]),
   (0x1F9ED, ["compass"]), (0x1F9EE, ["abacus"]), (0x1F9EF, ["fire_extinguisher"]),
   (0x1F9F0, ["toolbox"]), (0x1F9F1, ["brick"]), (0x1F9F2, ["magnet"]), (0x1F9F3, ["luggage"]),
   (0x1F9F4, ["lotion_bottle"]), (0x1F9F5, ["thread"]), (0x1F9F6, ["yarn"]),
   (0x1F9F7, ["safety_pin"]), (0x1F9F8, ["teddy_bear"]), (0x1F9F9, ["broom"]),
   (0x1F9FA, ["basket"]), (0x1F9FB, ["roll_of_paper"]), (0x1F9FC, ["soap"]), (0x1F9FD, ["sponge"]),
   (0x1F9FE, ["receipt"]), (0x1F9FF, ["nazar_amulet"]), (0x1FA70, ["ballet_shoes"]),
   (0x1FA71, ["one-piece_swimsuit"]), (0x1FA72, ["briefs"]), (0x1FA73, ["shorts"]),
   (0x1FA78, ["drop_of_blood"]), (0x1FA79, ["adhesive_bandage"]), (0x1FA7A, ["stethoscope"]),
   (0x1FA80, ["yo-yo"]), (0x1FA81, ["kite"]), (0x1FA90, ["ringed_planet"]), (0x1FA91, ["chair"]),
   (0x1FA92, ["razor"]), (0x1FA93, ["axe"]), (0x1FA94, ["diya_lamp"]), (0x1FA95, ["banjo"])]

/-- Emoji of one character with their names. -/
def characterNames : List (Nat × List String) :=
  symbolNames ++ sceneNames ++ creatureNames ++ objectNames ++ faceNames ++ laterNames

/-- Emoji of several characters with their names. -/
def sequenceNames : List (List Nat × List String) :=
  [([0x23, 0x20E3], ["keycap_number_sign"]), ([0x23, 0xFE0F, 0x20E3], ["keycap_#"]),
   ([0x2A, 0x20E3], ["keycap_asterisk"]), ([0x2A, 0xFE0F, 0x20E3], ["keycap_*"]),
   ([0x30, 0x20E3], ["keycap_digit_zero"]), ([0x30, 0xFE0F, 0x20E3], ["keycap_0", "zero"]),
   ([0x31, 0x20E3], ["keycap_digit_one"]), ([0x31, 0xFE0F, 0x20E3], ["keycap_1", "one"]),
   ([0x32, 0x20E3], ["keycap_digit_two"]), ([0x32, 0xFE0F, 0x20E3], ["keycap_2", "two"]),
   ([0x33, 0x20E3], ["keycap_digit_three"]), ([0x33, 0xFE0F, 0x20E3], ["keycap_3", "three"]),
   ([0x34, 0x20E3], ["keycap_digit_four"]), ([0x34, 0xFE0F, 0x20E3], ["four", "keycap_4"]),
   ([0x35, 0x20E3], ["keycap_digit_five"]), ([0x35, 0xFE0F, 0x20E3], ["five", "keycap_5"]),
   ([0x36, 0x20E3], ["keycap_digit_six"]), ([0x36, 0xFE0F, 0x20E3], ["keycap_6", "six"]),
   ([0x37, 0x20E3], ["keycap_digit_seven"]), ([0x37, 0xFE0F, 0x20E3], ["keycap_7", "seven"]),
   ([0x38, 0x20E3], ["keycap_digit_eight"]), ([0x38, 0xFE0F, 0x20E3], ["eight", "keycap_8"]),
   ([0x39, 0x20E3], ["keycap_digit_nine"]), ([0x39, 0xFE0F, 0x20E3], ["keycap_9", "nine"]),
   ([0x26F9, 0xFE0F, 0x200D, 0x2640, 0xFE0F], ["woman_bouncing_ball"]),
   ([0x26F9, 0xFE0F, 0x200D, 0x2642, 0xFE0F], ["man_bouncing_ball"]),
   ([0x1F3C3, 0x200D, 0x2640, 0xFE0F], ["woman_running"]),
   ([0x1F3C3, 0x200D, 0x2642, 0xFE0F], ["man_running"]),
   ([0x1F3C4, 0x200D, 0x2640, 0xFE0F], ["woman_surfing"]),
   ([0x1F3C4, 0x200D, 0x2642, 0xFE0F], ["man_surfing"]),
   ([0x1F3CA, 0x200D, 0x2640, 0xFE0F], ["woman_swimming"]),
   ([0x1F3CA, 0x200D, 0x2642, 0xFE0F], ["man_swimming"]),
   ([0x1F3CB, 0xFE0F, 0x200D, 0x2640, 0xFE0F], ["woman_lifting_weights"]),
   ([0x1F3CB, 0xFE0F, 0x200D, 0x2642, 0xFE0F], ["man_lifting_weights"]),
   ([0x1F3CC, 0xFE0F, 0x200D, 0x2640, 0xFE0F], ["woman_golfing"]),
   ([0x1F3CC, 0xFE0F, 0x200D, 0x2642, 0xFE0F], ["man_golfing"]),
   ([0x1F3F3, 0xFE0F, 0x200D, 0x1F308], ["rainbow_flag"]),
   ([0x1F3F4, 0x200D, 0x2620, 0xFE0F], ["pirate_flag"]),
   ([0x1F3F4, 0xE0067, 0xE0062, 0xE0065, 0xE006E, 0xE0067, 0xE007F], ["england"]),
   ([0x1F3F4, 0xE0067, 0xE0062, 0xE0073, 0xE0063, 0xE0074, 0xE007F], ["scotland"]),
   ([0x1F3F4, 0xE0067, 0xE0062, 0xE0077, 0xE006C, 0xE0073, 0xE007F], ["wales"]),
   ([0x1F415, 0x200D, 0x1F9BA], ["service_dog"]),
   ([0x1F441, 0xFE0F, 0x200D, 0x1F5E8, 0xFE0F], ["eye_in_speech_bubble"]),
   ([0x1F468, 0x200D, 0x2695, 0xFE0F], ["man_health_worker"]),
   ([0x1F468, 0x200D, 0x2696, 0xFE0F], ["man_judge"]),
   ([0x1F468, 0x200D, 0x2708, 0xFE0F], ["man_pilot"]),
   ([0x1F468, 0x200D, 0x2764, 0xFE0F, 0x200D, 0x1F468], ["couple_with_heart_man_man"]),
   ([0x1F468, 0x200D, 0x2764, 0xFE0F, 0x200D, 0x1F48B, 0x200D, 0x1F468], ["kiss_man_man"]),
   ([0x1F468, 0x200D, 0x1F33E], ["man_farmer"]), ([0x1F468, 0x200D, 0x1F373], ["man_cook"]),
   ([0x1F468, 0x200D, 0x1F393], ["man_student"]), ([0x1F468, 0x200D, 0x1F3A4], ["man_singer"]),
   ([0x1F468, 0x200D, 0x1F3A8], ["man_artist"]), ([0x1F468, 0x200D, 0x1F3EB], ["man_teacher"]),
   ([0x1F468, 0x200D, 0x1F3ED], ["man_factory_worker"]),
   ([0x1F468, 0x200D, 0x1F466], ["family_man_boy"]),
   ([0x1F468, 0x200D, 0x1F466, 0x200D, 0x1F466], ["family_man_boy_boy"]),
   ([0x1F468, 0x200D, 0x1F467], ["family_man_girl"]),
   ([0x1F468, 0x200D, 0x1F467, 0x200D, 0x1F466], ["family_man_girl_boy"]),
   ([0x1F468, 0x200D, 0x1F467, 0x200D, 0x1F467], ["family_man_girl_girl"]),
   ([0x1F468, 0x200D, 0x1F468, 0x200D, 0x1F466], ["family_man_man_boy"]),
   ([0x1F468, 0x200D, 0x1F468, 0x200D, 0x1F466, 0x200D, 0x1F466], ["family_man_man_boy_boy"]),
   ([0x1F468, 0x200D, 0x1F468, 0x200D, 0x1F467], ["family_man_man_girl"]),
   ([0x1F468, 0x200D, 0x1F468, 0x200D, 0x1F467, 0x200D, 0x1F466], ["family_man_man_girl_boy"]),
   ([0x1F468, 0x200D, 0x1F468, 0x200D, 0x1F467, 0x200D, 0x1F467], ["family_man_man_girl_girl"]),
   ([0x1F468, 0x200D, 0x1F469, 0x200D, 0x1F466], ["family_man_woman_boy"]),
   ([0x1F468, 0x200D, 0x1F469, 0x200D, 0x1F466, 0x200D, 0x1F466], ["family_man_woman_boy_boy"]),
   ([0x1F468, 0x200D, 0x1F469, 0x200D, 0x1F467], ["family_man_woman_girl"]),
   ([0x1F468, 0x200D, 0x1F469, 0x200D, 0x1F467, 0x200D, 0x1F466], ["family_man_woman_girl_boy"]),
   ([0x1F468, 0x200D, 0x1F469, 0x200D, 0x1F467, 0x200D, 0x1F467], ["family_man_woman_girl_girl"]),
   ([0x1F468, 0x200D, 0x1F4BB], ["man_technologist"]),
   ([0x1F468, 0x200D, 0x1F4BC], ["man_office_worker"]),
   ([0x1F468, 0x200D, 0x1F527], ["man_mechanic"]), ([0x1F468, 0x200D, 0x1F52C], ["man_scientist"]),
   ([0x1F468, 0x200D, 0x1F680], ["man_astronaut"]),
   ([0x1F468, 0x200D, 0x1F692], ["man_firefighter"]),
   ([0x1F468, 0x200D, 0x1F9AF], ["man_with_probing_cane"]),
   ([0x1F468, 0x200D, 0x1F9B0], ["red-haired_man"]),
   ([0x1F468, 0x200D, 0x1F9B1], ["curly-haired_man"]), ([0x1F468, 0x200D, 0x1F9B2], ["bald_man"]),
   ([0x1F468, 0x200D, 0x1F9B3], ["white-haired_man"]),
   ([0x1F468, 0x200D, 0x1F9BC], ["man_in_motorized_wheelchair"]),
   ([0x1F468, 0x200D, 0x1F9BD], ["man_in_manual_wheelchair"]),
   ([0x1F469, 0x200D, 0x2695, 0xFE0F], ["woman_health_worker"]),
   ([0x1F469, 0x200D, 0x2696, 0xFE0F], ["woman_judge"]),
   ([0x1F469, 0x200D, 0x2708, 0xFE0F], ["woman_pilot"]),
   ([0x1F469, 0x200D, 0x2764, 0xFE0F, 0x200D, 0x1F468], ["couple_with_heart_woman_man"]),
   ([0x1F469, 0x200D, 0x2764, 0xFE0F, 0x200D, 0x1F469], ["couple_with_heart_woman_woman"]),
   ([0x1F469, 0x200D, 0x2764, 0xFE0F, 0x200D, 0x1F48B, 0x200D, 0x1F468], ["kiss_woman_man"]),
   ([0x1F469, 0x200D, 0x2764, 0xFE0F, 0x200D, 0x1F48B, 0x200D, 0x1F469], ["kiss_woman_woman"]),
   ([0x1F469, 0x200D, 0x1F33E], ["woman_farmer"]), ([0x1F469, 0x200D, 0x1F373], ["woman_cook"]),
   ([0x1F469, 0x200D, 0x1F393], ["woman_student"]), ([0x1F469, 0x200D, 0x1F3A4], ["woman_singer"]),
   ([0x1F469, 0x200D, 0x1F3A8], ["woman_artist"]), ([0x1F469, 0x200D, 0x1F3EB], ["woman_teacher"]),
   ([0x1F469, 0x200D, 0x1F3ED], ["woman_factory_worker"]),
   ([0x1F469, 0x200D, 0x1F466], ["family_woman_boy"]),
   ([0x1F469, 0x200D, 0x1F466, 0x200D, 0x1F466], ["family_woman_boy_boy"]),
   ([0x1F469, 0x200D, 0x1F467], ["family_woman_girl"]),
   ([0x1F469, 0x200D, 0x1F467, 0x200D, 0x1F466], ["family_woman_girl_boy"]),
   ([0x1F469, 0x200D, 0x1F467, 0x200D, 0x1F467], ["family_woman_girl_girl"]),
   ([0x1F469, 0x200D, 0x1F469, 0x200D, 0x1F466], ["family_woman_woman_boy"]),
   ([0x1F469, 0x200D, 0x1F469, 0x200D, 0x1F466, 0x200D, 0x1F466], ["family_woman_woman_boy_boy"]),
   ([0x1F469, 0x200D, 0x1F469, 0x200D, 0x1F467], ["family_woman_woman_girl"]),
   ([0x1F469, 0x200D, 0x1F469, 0x200D, 0x1F467, 0x200D, 0x1F466], ["family_woman_woman_girl_boy"]),
   ([0x1F469, 0x200D, 0x1F469, 0x200D, 0x1F467, 0x200D, 0x1F467], ["family_woman_woman_girl_girl"]),
   ([0x1F469, 0x200D, 0x1F4BB], ["woman_technologist"]),
   ([0x1F469, 0x200D, 0x1F4BC], ["woman_office_worker"]),
   ([0x1F469, 0x200D, 0x1F527], ["woman_mechanic"]),
   ([0x1F469, 0x200D, 0x1F52C], ["woman_scientist"]),
   ([0x1F469, 0x200D, 0x1F680], ["woman_astronaut"]),
   ([0x1F469, 0x200D, 0x1F692], ["woman_firefighter"]),
   ([0x1F469, 0x200D, 0x1F9AF], ["woman_with_probing_cane"]),
   ([0x1F469, 0x200D, 0x1F9B0], ["red-haired_woman"]),
   ([0x1F469, 0x200D, 0x1F9B1], ["curly-haired_woman"]),
   ([0x1F469, 0x200D, 0x1F9B2], ["bald_woman"]),
   ([0x1F469, 0x200D, 0x1F9B3], ["white-haired_woman"]),
   ([0x1F469, 0x200D, 0x1F9BC], ["woman_in_motorized_wheelchair"]),
   ([0x1F469, 0x200D, 0x1F9BD], ["woman_in_manual_wheelchair"]),
   ([0x1F46E, 0x200D, 0x2640, 0xFE0F], ["woman_police_officer"]),
   ([0x1F46E, 0x200D, 0x2642, 0xFE0F], ["man_police_officer"]),
   ([0x1F46F, 0x200D, 0x2640, 0xFE0F], ["women_with_bunny_ears"]),
   ([0x1F46F, 0x200D, 0x2642, 0xFE0F], ["men_with_bunny_ears"]),
   ([0x1F471, 0x200D, 0x2640, 0xFE0F], ["blond-haired_woman"]),
   ([0x1F471, 0x200D, 0x2642, 0xFE0F], ["blond-haired_man"]),
   ([0x1F473, 0x200D, 0x2640, 0xFE0F], ["woman_wearing_turban"]),
   ([0x1F473, 0x200D, 0x2642, 0xFE0F], ["man_wearing_turban"]),
   ([0x1F477, 0x200D, 0x2640, 0xFE0F], ["woman_construction_worker"]),
   ([0x1F477, 0x200D, 0x2642, 0xFE0F], ["man_construction_worker"]),
   ([0x1F481, 0x200D, 0x2640, 0xFE0F], ["woman_tipping_hand"]),
   ([0x1F481, 0x200D, 0x2642, 0xFE0F], ["man_tipping_hand"]),
   ([0x1F482, 0x200D, 0x2640, 0xFE0F], ["woman_guard"]),
   ([0x1F482, 0x200D, 0x2642, 0xFE0F], ["man_guard"]),
   ([0x1F486, 0x200D, 0x2640, 0xFE0F], ["woman_getting_massage"]),
   ([0x1F486, 0x200D, 0x2642, 0xFE0F], ["man_getting_massage"]),
   ([0x1F487, 0x200D, 0x2640, 0xFE0F], ["woman_getting_haircut"]),
   ([0x1F487, 0x200D, 0x2642, 0xFE0F], ["man_getting_haircut"]),
   ([0x1F575, 0xFE0F, 0x200D, 0x2640, 0xFE0F], ["woman_detective"]),
   ([0x1F575, 0xFE0F, 0x200D, 0x2642, 0xFE0F], ["man_detective"]),
   ([0x1F645, 0x200D, 0x2640, 0xFE0F], ["woman_gesturing_no"]),
   ([0x1F645, 0x200D, 0x2642, 0xFE0F], ["man_gesturing_no"]),
   ([0x1F646, 0x200D, 0x2640, 0xFE0F], ["woman_gesturing_ok"]),
   ([0x1F646, 0x200D, 0x2642, 0xFE0F], ["man_gesturing_ok"]),
   ([0x1F647, 0x200D, 0x2640, 0xFE0F], ["woman_bowing"]),
   ([0x1F647, 0x200D, 0x2642, 0xFE0F], ["man_bowing"]),
   ([0x1F64B, 0x200D, 0x2640, 0xFE0F], ["woman_raising_hand"]),
   ([0x1F64B, 0x200D, 0x2642, 0xFE0F], ["man_raising_hand"]),
   ([0x1F64D, 0x200D, 0x2640, 0xFE0F], ["woman_frowning"]),
   ([0x1F64D, 0x200D, 0x2642, 0xFE0F], ["man_frowning"]),
   ([0x1F64E, 0x200D, 0x2640, 0xFE0F], ["woman_pouting"]),
   ([0x1F64E, 0x200D, 0x2642, 0xFE0F], ["man_pouting"]),
   ([0x1F6A3, 0x200D, 0x2640, 0xFE0F], ["woman_rowing_boat"]),
   ([0x1F6A3, 0x200D, 0x2642, 0xFE0F], ["man_rowing_boat"]),
   ([0x1F6B4, 0x200D, 0x2640, 0xFE0F], ["woman_biking"]),
   ([0x1F6B4, 0x200D, 0x2642, 0xFE0F], ["man_biking"]),
   ([0x1F6B5, 0x200D, 0x2640, 0xFE0F], ["woman_mountain_biking"]),
   ([0x1F6B5, 0x200D, 0x2642, 0xFE0F], ["man_mountain_biking"]),
   ([0x1F6B6, 0x200D, 0x2640, 0xFE0F], ["woman_walking"]),
   ([0x1F6B6, 0x200D, 0x2642, 0xFE0F], ["man_walking"]),
   ([0x1F926, 0x200D, 0x2640, 0xFE0F], ["woman_facepalming"]),
   ([0x1F926, 0x200D, 0x2642, 0xFE0F], ["man_facepalming"]),
   ([0x1F937, 0x200D, 0x2640, 0xFE0F], ["woman_shrugging"]),
   ([0x1F937, 0x200D, 0x2642, 0xFE0F], ["man_shrugging"]),
   ([0x1F938, 0x200D, 0x2640, 0xFE0F], ["woman_cartwheeling"]),
   ([0x1F938, 0x200D, 0x2642, 0xFE0F], ["man_cartwheeling"]),
   ([0x1F939, 0x200D, 0x2640, 0xFE0F], ["woman_juggling"]),
   ([0x1F939, 0x200D, 0x2642, 0xFE0F], ["man_juggling"]),
   ([0x1F93C, 0x200D, 0x2640, 0xFE0F], ["women_wrestling"]),
   ([0x1F93C, 0x200D, 0x2642, 0xFE0F], ["men_wrestling"]),
   ([0x1F93D, 0x200D, 0x2640, 0xFE0F], ["woman_playing_water_polo"]),
   ([0x1F93D, 0x200D, 0x2642, 0xFE0F], ["man_playing_water_polo"]),
   ([0x1F93E, 0x200D, 0x2640, 0xFE0F], ["woman_playing_handball"]),
   ([0x1F93E, 0x200D, 0x2642, 0xFE0F], ["man_playing_handball"]),
   ([0x1F9D1, 0x200D, 0x1F91D, 0x200D, 0x1F9D1], ["people_holding_hands"]),
   ([0x1F9D6, 0x200D, 0x2640, 0xFE0F], ["woman_in_steamy_room"]),
   ([0x1F9D6, 0x200D, 0x2642, 0xFE0F], ["man_in_steamy_room"]),
   ([0x1F9D7, 0x200D, 0x2640, 0xFE0F], ["woman_climbing"]),
   ([0x1F9D7, 0x200D, 0x2642, 0xFE0F], ["man_climbing"]),
   ([0x1F9D8, 0x200D, 0x2640, 0xFE0F], ["woman_in_lotus_position"]),
   ([0x1F9D8, 0x200D, 0x2642, 0xFE0F], ["man_in_lotus_position"]),
   ([0x1F9D9, 0x200D, 0x2640, 0xFE0F], ["woman_mage"]),
   ([0x1F9D9, 0x200D, 0x2642, 0xFE0F], ["man_mage"]),
   ([0x1F9DA, 0x200D, 0x2640, 0xFE0F], ["woman_fairy"]),
   ([0x1F9DA, 0x200D, 0x2642, 0xFE0F], ["man_fairy"]),
   ([0x1F9DB, 0x200D, 0x2640, 0xFE0F], ["woman_vampire"]),
   ([0x1F9DB, 0x200D, 0x2642, 0xFE0F], ["man_vampire"]),
   ([0x1F9DC, 0x200D, 0x2640, 0xFE0F], ["mermaid"]),
   ([0x1F9DC, 0x200D, 0x2642, 0xFE0F], ["merman"]),
   ([0x1F9DD, 0x200D, 0x2640, 0xFE0F], ["woman_elf"]),
   ([0x1F9DD, 0x200D, 0x2642, 0xFE0F], ["man_elf"]),
   ([0x1F9DE, 0x200D, 0x2640, 0xFE0F], ["woman_genie"]),
   ([0x1F9DE, 0x200D, 0x2642, 0xFE0F], ["man_genie"]),
   ([0x1F9DF, 0x200D, 0x2640, 0xFE0F], ["woman_zombie"]),
   ([0x1F9DF, 0x200D, 0x2642, 0xFE0F], ["man_zombie"])]

/-- The two letters of a region with its name. Its flag has the same name, and the name behind
the words for a flag. -/
def regionNames : List (String × String) :=
  [("ac", "ascension_island"), ("ad", "andorra"), ("ae", "united_arab_emirates"),
   ("af", "afghanistan"), ("ag", "antigua_&_barbuda"), ("ai", "anguilla"), ("al", "albania"),
   ("am", "armenia"), ("ao", "angola"), ("aq", "antarctica"), ("ar", "argentina"),
   ("as", "american_samoa"), ("at", "austria"), ("au", "australia"), ("aw", "aruba"),
   ("ax", "åland_islands"), ("az", "azerbaijan"), ("ba", "bosnia_&_herzegovina"),
   ("bb", "barbados"), ("bd", "bangladesh"), ("be", "belgium"), ("bf", "burkina_faso"),
   ("bg", "bulgaria"), ("bh", "bahrain"), ("bi", "burundi"), ("bj", "benin"),
   ("bl", "st._barthélemy"), ("bm", "bermuda"), ("bn", "brunei"), ("bo", "bolivia"),
   ("bq", "caribbean_netherlands"), ("br", "brazil"), ("bs", "bahamas"), ("bt", "bhutan"),
   ("bv", "bouvet_island"), ("bw", "botswana"), ("by", "belarus"), ("bz", "belize"),
   ("ca", "canada"), ("cf", "central_african_republic"), ("ch", "switzerland"),
   ("ci", "côte_d’ivoire"), ("ck", "cook_islands"), ("cl", "chile"), ("cm", "cameroon"),
   ("cn", "china"), ("co", "colombia"), ("cp", "clipperton_island"), ("cr", "costa_rica"),
   ("cu", "cuba"), ("cv", "cape_verde"), ("cw", "curaçao"), ("cx", "christmas_island"),
   ("cy", "cyprus"), ("de", "germany"), ("dg", "diego_garcia"), ("dj", "djibouti"),
   ("dk", "denmark"), ("dm", "dominica"), ("do", "dominican_republic"), ("dz", "algeria"),
   ("ea", "ceuta_&_melilla"), ("ec", "ecuador"), ("ee", "estonia"), ("eg", "egypt"),
   ("eh", "western_sahara"), ("er", "eritrea"), ("es", "spain"), ("et", "ethiopia"),
   ("eu", "european_union"), ("fi", "finland"), ("fj", "fiji"), ("fk", "falkland_islands"),
   ("fm", "micronesia"), ("fo", "faroe_islands"), ("fr", "france"), ("ga", "gabon"),
   ("gb", "united_kingdom"), ("gd", "grenada"), ("ge", "georgia"), ("gf", "french_guiana"),
   ("gg", "guernsey"), ("gh", "ghana"), ("gi", "gibraltar"), ("gl", "greenland"), ("gm", "gambia"),
   ("gn", "guinea"), ("gp", "guadeloupe"), ("gq", "equatorial_guinea"), ("gr", "greece"),
   ("gs", "south_georgia_&_south_sandwich_islands"), ("gt", "guatemala"), ("gu", "guam"),
   ("gy", "guyana"), ("hm", "heard_&_mcdonald_islands"), ("hn", "honduras"), ("hr", "croatia"),
   ("ht", "haiti"), ("hu", "hungary"), ("ic", "canary_islands"), ("id", "indonesia"),
   ("ie", "ireland"), ("il", "israel"), ("im", "isle_of_man"), ("in", "india"),
   ("io", "british_indian_ocean_territory"), ("iq", "iraq"), ("ir", "iran"), ("is", "iceland"),
   ("it", "italy"), ("je", "jersey"), ("jm", "jamaica"), ("jo", "jordan"), ("ke", "kenya"),
   ("kg", "kyrgyzstan"), ("kh", "cambodia"), ("ki", "kiribati"), ("km", "comoros"),
   ("kn", "st._kitts_&_nevis"), ("kp", "north_korea"), ("kr", "south_korea"), ("kw", "kuwait"),
   ("ky", "cayman_islands"), ("kz", "kazakhstan"), ("la", "laos"), ("lb", "lebanon"),
   ("lc", "st._lucia"), ("li", "liechtenstein"), ("lk", "sri_lanka"), ("lr", "liberia"),
   ("ls", "lesotho"), ("lt", "lithuania"), ("lu", "luxembourg"), ("lv", "latvia"), ("ly", "libya"),
   ("ma", "morocco"), ("mc", "monaco"), ("md", "moldova"), ("me", "montenegro"),
   ("mf", "st._martin"), ("mg", "madagascar"), ("mh", "marshall_islands"), ("mk", "macedonia"),
   ("ml", "mali"), ("mn", "mongolia"), ("mp", "northern_mariana_islands"), ("mq", "martinique"),
   ("mr", "mauritania"), ("ms", "montserrat"), ("mt", "malta"), ("mu", "mauritius"),
   ("mv", "maldives"), ("mw", "malawi"), ("mx", "mexico"), ("my", "malaysia"), ("mz", "mozambique"),
   ("na", "namibia"), ("nc", "new_caledonia"), ("ne", "niger"), ("nf", "norfolk_island"),
   ("ng", "nigeria"), ("ni", "nicaragua"), ("nl", "netherlands"), ("no", "norway"), ("np", "nepal"),
   ("nr", "nauru"), ("nu", "niue"), ("nz", "new_zealand"), ("om", "oman"), ("pa", "panama"),
   ("pe", "peru"), ("pf", "french_polynesia"), ("pg", "papua_new_guinea"), ("ph", "philippines"),
   ("pk", "pakistan"), ("pl", "poland"), ("pm", "st._pierre_&_miquelon"),
   ("pn", "pitcairn_islands"), ("pr", "puerto_rico"), ("ps", "palestinian_territories"),
   ("pt", "portugal"), ("pw", "palau"), ("py", "paraguay"), ("qa", "qatar"), ("re", "réunion"),
   ("ro", "romania"), ("rs", "serbia"), ("ru", "russia"), ("rw", "rwanda"), ("sa", "saudi_arabia"),
   ("sb", "solomon_islands"), ("sc", "seychelles"), ("sd", "sudan"), ("se", "sweden"),
   ("sg", "singapore"), ("sh", "st._helena"), ("si", "slovenia"), ("sj", "svalbard_&_jan_mayen"),
   ("sk", "slovakia"), ("sl", "sierra_leone"), ("sm", "san_marino"), ("sn", "senegal"),
   ("so", "somalia"), ("sr", "suriname"), ("ss", "south_sudan"), ("st", "são_tomé_&_príncipe"),
   ("sv", "el_salvador"), ("sx", "sint_maarten"), ("sy", "syria"), ("sz", "swaziland"),
   ("ta", "tristan_da_cunha"), ("tc", "turks_&_caicos_islands"), ("td", "chad"),
   ("tf", "french_southern_territories"), ("tg", "togo"), ("th", "thailand"), ("tj", "tajikistan"),
   ("tk", "tokelau"), ("tm", "turkmenistan"), ("tn", "tunisia"), ("to", "tonga"),
   ("tt", "trinidad_&_tobago"), ("tv", "tuvalu"), ("tw", "taiwan"), ("tz", "tanzania"),
   ("ua", "ukraine"), ("ug", "uganda"), ("um", "u.s._outlying_islands"), ("us", "united_states"),
   ("uy", "uruguay"), ("uz", "uzbekistan"), ("va", "vatican_city"),
   ("vc", "st._vincent_&_grenadines"), ("ve", "venezuela"), ("vg", "british_virgin_islands"),
   ("vi", "u.s._virgin_islands"), ("vn", "vietnam"), ("vu", "vanuatu"), ("wf", "wallis_&_futuna"),
   ("ws", "samoa"), ("xk", "kosovo"), ("ye", "yemen"), ("yt", "mayotte"), ("za", "south_africa"),
   ("zm", "zambia"), ("zw", "zimbabwe")]

/-- Regions whose flags have names of their own. -/
def flagNames : List (String × List String) :=
  [("cc", ["cocos_(keeling)_islands", "flag_for_cocos__islands"]),
   ("cd", ["congo_-_kinshasa", "flag_for_congo____kinshasa"]),
   ("cg", ["congo_-_brazzaville", "flag_for_congo____brazzaville"]),
   ("cz", ["czechia", "flag_for_czech_republic"]),
   ("gw", ["flag_for_guinea__bissau", "guinea-bissau"]),
   ("hk", ["flag_for_hong_kong", "hong_kong_sar_china"]), ("jp", ["flag_for_japan"]),
   ("mm", ["flag_for_myanmar", "myanmar_(burma)"]), ("mo", ["flag_for_macau", "macau_sar_china"]),
   ("tl", ["flag_for_timor__leste", "timor-leste"]), ("tr", ["flag_for_turkey"]),
   ("un", ["united_nations"])]

/-- The names of emoji that come in every tone. -/
def tonedNames : List String :=
  ["adult", "baby", "baby_angel", "backhand_index_pointing_down", "backhand_index_pointing_left",
   "backhand_index_pointing_right", "backhand_index_pointing_up", "bearded_person",
   "blond-haired_man", "blond-haired_person", "blond-haired_woman", "boy", "breast-feeding",
   "bride_with_veil", "call_me_hand", "child", "clapping_hands", "construction_worker",
   "crossed_fingers", "detective", "ear", "elf", "fairy", "flexed_biceps", "folded_hands", "girl",
   "guard", "hand_with_fingers_splayed", "horse_racing", "index_pointing_up", "left-facing_fist",
   "love-you_gesture", "mage", "man", "man_artist", "man_astronaut", "man_biking",
   "man_bouncing_ball", "man_bowing", "man_cartwheeling", "man_climbing", "man_construction_worker",
   "man_cook", "man_dancing", "man_detective", "man_elf", "man_facepalming", "man_factory_worker",
   "man_fairy", "man_farmer", "man_firefighter", "man_frowning", "man_gesturing_no",
   "man_gesturing_ok", "man_getting_haircut", "man_getting_massage", "man_golfing", "man_guard",
   "man_health_worker", "man_in_lotus_position", "man_in_steamy_room", "man_in_suit_levitating",
   "man_in_tuxedo", "man_judge", "man_juggling", "man_lifting_weights", "man_mage", "man_mechanic",
   "man_mountain_biking", "man_office_worker", "man_pilot", "man_playing_handball",
   "man_playing_water_polo", "man_police_officer", "man_pouting", "man_raising_hand",
   "man_rowing_boat", "man_running", "man_scientist", "man_shrugging", "man_singer", "man_student",
   "man_surfing", "man_swimming", "man_teacher", "man_technologist", "man_tipping_hand",
   "man_vampire", "man_walking", "man_wearing_turban", "man_with_chinese_cap", "mermaid", "merman",
   "merperson", "middle_finger", "mrs._claus", "nail_polish", "nose", "ok_hand", "old_man",
   "old_woman", "older_adult", "oncoming_fist", "open_hands", "palms_up_together", "person_biking",
   "person_bouncing_ball", "person_bowing", "person_cartwheeling", "person_climbing",
   "person_facepalming", "person_frowning", "person_gesturing_no", "person_gesturing_ok",
   "person_getting_haircut", "person_getting_massage", "person_golfing", "person_in_bed",
   "person_in_lotus_position", "person_in_steamy_room", "person_juggling", "person_lifting_weights",
   "person_mountain_biking", "person_playing_handball", "person_playing_water_polo",
   "person_pouting", "person_raising_hand", "person_rowing_boat", "person_running",
   "person_shrugging", "person_surfing", "person_swimming", "person_taking_bath",
   "person_tipping_hand", "person_walking", "person_wearing_turban", "police_officer",
   "pregnant_woman", "prince", "princess", "raised_back_of_hand", "raised_fist", "raised_hand",
   "raising_hands", "right-facing_fist", "santa_claus", "selfie", "sign_of_the_horns",
   "snowboarder", "thumbs_down", "thumbs_up", "vampire", "victory_hand", "vulcan_salute",
   "waving_hand", "woman", "woman_artist", "woman_astronaut", "woman_biking", "woman_bouncing_ball",
   "woman_bowing", "woman_cartwheeling", "woman_climbing", "woman_construction_worker",
   "woman_cook", "woman_dancing", "woman_detective", "woman_elf", "woman_facepalming",
   "woman_factory_worker", "woman_fairy", "woman_farmer", "woman_firefighter", "woman_frowning",
   "woman_gesturing_no", "woman_gesturing_ok", "woman_getting_haircut", "woman_getting_massage",
   "woman_golfing", "woman_guard", "woman_health_worker", "woman_in_lotus_position",
   "woman_in_steamy_room", "woman_judge", "woman_juggling", "woman_lifting_weights", "woman_mage",
   "woman_mechanic", "woman_mountain_biking", "woman_office_worker", "woman_pilot",
   "woman_playing_handball", "woman_playing_water_polo", "woman_police_officer", "woman_pouting",
   "woman_raising_hand", "woman_rowing_boat", "woman_running", "woman_scientist", "woman_shrugging",
   "woman_singer", "woman_student", "woman_surfing", "woman_swimming", "woman_teacher",
   "woman_technologist", "woman_tipping_hand", "woman_vampire", "woman_walking",
   "woman_wearing_turban", "woman_with_headscarf", "writing_hand"]

/-- The tones with their names. -/
def tones : List (String × Nat) :=
  [("dark", 0x1F3FF), ("light", 0x1F3FB), ("medium", 0x1F3FD), ("medium-dark", 0x1F3FE),
   ("medium-light", 0x1F3FC)]

end CrossRef.Emoji
